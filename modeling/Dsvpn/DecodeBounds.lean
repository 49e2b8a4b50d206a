import Dsvpn.ConnSocket
import Dsvpn.Handlers
import Dsvpn.UdpConnection

namespace Dsvpn

open ProtocolHeader

/-!
# Decoding inside the buffers

What follows a header is as long as the two lengths together, modulo `2 ^ 32`,
and over TCP that many bytes are read behind the header before any length is
checked.  `DecryptPayload` checks the payload length alone.  So decoding stays
inside the buffers exactly if what follows the header fits behind it.
-/

/-- The header in the buffer authenticates, with these two lengths. -/
def IConnection.OpensTo
    (aead : Aead 16)
    (self : IConnection)
    (payload_length padding_length : Nat) : Prop :=
  aead.decrypt self.protocol.key (NONCE self.conn_recv_buffer)
      (lengthFields self.conn_recv_buffer)
      (LEN_TAG self.conn_recv_buffer) =
    some (word32 payload_length ++ word32 padding_length)

instance
    (aead : Aead 16)
    (self : IConnection)
    (payload_length padding_length : Nat) :
    Decidable (self.OpensTo aead payload_length padding_length) :=
  inferInstanceAs (Decidable (_ = _))

section

variable
    {aead : Aead 16}
    {payload_length padding_length : Nat}

theorem IConnection.OpensTo.DecryptHeader
    {self : IConnection}
    (opens : self.OpensTo aead payload_length padding_length) :
    (self.protocol.DecryptHeader aead self.conn_recv_buffer).2 =
      (payload_length + padding_length) % 2 ^ 32 := by
  rw [Protocol.DecryptHeader_accept opens]
  have first :
      (word32 payload_length ++ word32 padding_length).take 4 =
        word32 payload_length :=
    List.take_left' (length_word32 _)
  have second :
      (word32 payload_length ++ word32 padding_length).drop 4 =
        word32 padding_length :=
    List.drop_left' (length_word32 _)
  rw [first, second, ofWord32_word32, ofWord32_word32, ← Nat.add_mod]

/-- The whole read lies inside the buffer. -/
def ReadOp.Fits (op : ReadOp) : Prop :=
  op.offset + op.want ≤ 2000

theorem ReadOp.Fits.fail
    {op : ReadOp}
    (fits : op.Fits)
    (error : ErrorCode) :
    (op.fail error).Fits := by
  unfold ReadOp.fail
  split
  · exact fits
  · exact fits

/-- Nothing that a fitting read accepts falls outside. -/
theorem ReadOp.Fits.inside
    {op : ReadOp}
    (fits : op.Fits)
    {piece : List UInt8}
    (accepts : op.Accepts piece) :
    op.offset + op.got + piece.length ≤ 2000 := by
  have room := accepts.2.2
  unfold ReadOp.Fits at fits
  omega

theorem ReadOp.start_fits
    {payload_len : Nat}
    (short : payload_len ≤ 1948) :
    (ReadOp.start Size payload_len).Fits := by
  simp only [ReadOp.Fits, ReadOp.start, Size]
  omega

/-- A read behind the header that does not fit accepts too much. -/
theorem ReadOp.exists_outside
    {payload_len : Nat}
    (long : 1948 < payload_len) :
    ∃ piece,
      (ReadOp.start Size payload_len).Accepts piece ∧
        ¬ (ReadOp.start Size payload_len).offset +
            (ReadOp.start Size payload_len).got + piece.length ≤
          2000 := by
  have length : (List.replicate 1949 (0 : UInt8)).length = 1949 :=
    List.length_replicate
  generalize List.replicate 1949 (0 : UInt8) = piece at length
  refine ⟨piece, ⟨rfl, ?_, ?_⟩, ?_⟩
  · rintro rfl
    cases length
  · simp only [ReadOp.start, length]
    omega
  · simp only [ReadOp.start, Size, length]
    omega

/-! ## UDP -/

namespace UDPConnection

variable {Endpoint : Type}

theorem decryptFrame_isSome
    (aead : Aead 16)
    (self : IConnection) :
    (self.decryptFrame aead).isSome := by
  unfold IConnection.decryptFrame
  simp only
  split
  · rfl
  · rcases self.protocol.DecryptPayload_cases aead
        (self.protocol.DecryptHeader aead self.conn_recv_buffer).1 with
        ⟨_, _, _, _, accepts⟩ | rejects
    · simp [accepts]
    · simp [rejects]

theorem asyncReceiveFrom_isSome
    (self : UDPConnection Endpoint)
    {size : Nat}
    (fits : size ≤ 2000)
    (arrival : Option (Endpoint × List UInt8)) :
    (self.asyncReceiveFrom size arrival).isSome := by
  cases arrival with
  | none => rfl
  | some arrival =>
      have inside : 0 + (arrival.2.take size).length ≤ 2000 := by
        rw [List.length_take]
        omega
      simp [asyncReceiveFrom, Buffer.store?_eq_some _ inside]

/-- Over UDP the reads are limited by the size of the caller's buffer. -/
theorem ReceiveFrom_isSome
    (aead : Aead 16)
    (self : UDPConnection Endpoint)
    {size : Nat}
    (fits : size ≤ 2000)
    (arrival : Option (Endpoint × List UInt8)) :
    (self.ReceiveFrom aead size arrival).isSome := by
  obtain ⟨received, arrived⟩ :=
    Option.isSome_iff_exists.mp
      (self.asyncReceiveFrom_isSome fits arrival)
  obtain ⟨decoded, decrypted⟩ :=
    Option.isSome_iff_exists.mp
      (decryptFrame_isSome aead received.toIConnection)
  simp [ReceiveFrom, resumeReceiveFrom, arrived, decrypted]

theorem Receive_isSome
    [DecidableEq Endpoint]
    (aead : Aead 16)
    (self : UDPConnection Endpoint)
    {size : Nat}
    (fits : size ≤ 2000)
    (arrival : Option (Endpoint × List UInt8)) :
    (self.Receive aead size arrival).isSome := by
  obtain ⟨received, arrived⟩ :=
    Option.isSome_iff_exists.mp
      (self.asyncReceiveFrom_isSome fits arrival)
  obtain ⟨decoded, decrypted⟩ :=
    Option.isSome_iff_exists.mp
      (decryptFrame_isSome aead received.toIConnection)
  simp only [Receive, resumeReceive, arrived, decrypted,
    Option.bind_eq_bind, Option.bind_some]
  split
  · rfl
  · rfl

end UDPConnection

/-! ## The client over TCP -/

namespace TcpReceiver

def OutOfBounds (self : TcpReceiver) : Prop :=
  self.fault = some .outOfBounds

/--
`Receive` is about to go on from its header read, with a header that
authenticates.
-/
structure AtHeader
    (aead : Aead 16)
    (payload_length padding_length : Nat)
    (receiver : TcpReceiver) : Prop where
  running : receiver.fault = none
  completed :
    ∃ op error,
      receiver.pc = .readHeader op ∧
        op.outcome = some error ∧ op.got ≠ 0
  connected : receiver.connection.conn_socket ≠ none
  opens :
    receiver.connection.toIConnection.OpensTo aead
      payload_length padding_length

/-- `Receive` stays inside until it is resumed again, and then. -/
def ReceiveInside
    (aead : Aead 16)
    (self : TcpReceiver) : Prop :=
  StepSystem.AvoidsAfter (step aead) OutOfBounds (fun _ => True)
    .resume self

def Fits (self : TcpReceiver) : Prop :=
  ∀ op, self.pc = .readHeader op ∨ self.pc = .readPayload op → op.Fits

variable {self next : TcpReceiver}

theorem resumeHeader_inside
    (running : self.fault = none)
    (bytes_read : Nat)
    (error : Option ErrorCode) :
    (self.resumeHeader aead bytes_read error).fault = none := by
  unfold resumeHeader
  split
  · exact running
  · split
    · exact running
    · simp only
      split
      · exact running
      · exact running

theorem resumePayload_inside
    (running : self.fault = none)
    (bytes_read : Nat)
    (error : Option ErrorCode) :
    (self.resumePayload aead bytes_read error).fault = none := by
  unfold resumePayload
  split
  · exact running
  · split
    · rename_i outside
      exact (Protocol.DecryptPayload_ne_none outside).elim
    · exact running

/-- A piece for a read that fits. -/
theorem arrive_inside
    {pc : ReadOp → ReceivePc}
    {op : ReadOp}
    {piece : List UInt8}
    (fits : op.Fits)
    (running : self.fault = none)
    (arrived : self.arrive pc op piece = some next) :
    next.fault = none ∧ next.pc = pc (op.receive piece) := by
  unfold arrive at arrived
  split at arrived
  · rename_i accepts
    simp only [IConnection.receivePiece,
      Buffer.store?_eq_some _ (fits.inside accepts),
      Option.bind_eq_bind, Option.bind_some,
      Option.some.injEq] at arrived
    subst arrived
    exact ⟨running, rfl⟩
  · cases arrived

/-- What one step does while every pending read fits. -/
theorem Fits.step
    {event : ReceiveEvent}
    (fits : self.Fits)
    (performed : TcpReceiver.step aead self event = some next) :
    ¬ next.OutOfBounds ∧ (event ≠ .resume → next.Fits) := by
  have unharmed
      {state : TcpReceiver}
      (running : state.fault = none) :
      ¬ state.OutOfBounds := by
    rw [OutOfBounds, running]
    nofun
  unfold TcpReceiver.step at performed
  split at performed
  · cases performed
  · rename_i running
    rw [Option.not_isSome_iff_eq_none] at running
    split at performed
    · obtain rfl := Option.some.inj performed
      unfold Receive
      split
      · refine ⟨by simp [OutOfBounds, setFault], fun _ op reading => ?_⟩
        exact fits op reading
      · refine ⟨unharmed running, fun _ op reading => ?_⟩
        rcases reading with ⟨⟨⟩⟩ | ⟨⟨⟩⟩
        exact Nat.le_of_ble_eq_true rfl
    · rename_i op piece reading
      obtain ⟨inside, pc⟩ :=
        arrive_inside (fits op (Or.inl reading)) running performed
      refine ⟨unharmed inside, fun _ other reads => ?_⟩
      rw [pc] at reads
      rcases reads with ⟨⟨⟩⟩ | ⟨⟨⟩⟩
      exact fits op (Or.inl reading)
    · rename_i op piece reading
      obtain ⟨inside, pc⟩ :=
        arrive_inside (fits op (Or.inr reading)) running performed
      refine ⟨unharmed inside, fun _ other reads => ?_⟩
      rw [pc] at reads
      rcases reads with ⟨⟨⟩⟩ | ⟨⟨⟩⟩
      exact fits op (Or.inr reading)
    · rename_i op error reading
      obtain rfl := Option.some.inj performed
      refine ⟨unharmed running, fun _ other reads => ?_⟩
      rcases reads with ⟨⟨⟩⟩ | ⟨⟨⟩⟩
      exact (fits op (Or.inl reading)).fail error
    · rename_i op error reading
      obtain rfl := Option.some.inj performed
      refine ⟨unharmed running, fun _ other reads => ?_⟩
      rcases reads with ⟨⟨⟩⟩ | ⟨⟨⟩⟩
      exact (fits op (Or.inr reading)).fail error
    · obtain ⟨error, _, rfl⟩ := Option.map_eq_some_iff.mp performed
      exact ⟨unharmed (resumeHeader_inside running _ _),
        fun other => (other rfl).elim⟩
    · obtain ⟨error, _, rfl⟩ := Option.map_eq_some_iff.mp performed
      exact ⟨unharmed (resumePayload_inside running _ _),
        fun other => (other rfl).elim⟩
    · cases performed

/-- What the header read of `Receive` goes on with. -/
theorem AtHeader.resume
    {payload_length padding_length : Nat}
    (atHeader : self.AtHeader aead payload_length padding_length)
    (performed : step aead self .resume = some next) :
    next.fault = none ∧
      (((payload_length + padding_length) % 2 ^ 32 = 0 ∧
          next.pc = .idle) ∨
        next.pc =
          .readPayload
            (ReadOp.start Size
              ((payload_length + padding_length) % 2 ^ 32))) := by
  obtain ⟨op, error, reading, completed, something⟩ := atHeader.completed
  have length := atHeader.opens.DecryptHeader
  simp only [step, atHeader.running, Option.isSome_none,
    Bool.false_eq_true, if_false, reading, completed, Option.map_some,
    Option.some.injEq] at performed
  subst performed
  refine ⟨resumeHeader_inside atHeader.running _ _, ?_⟩
  unfold resumeHeader
  rw [if_neg something, if_neg atHeader.connected]
  simp only [length]
  split
  · rename_i nothing
    exact Or.inl ⟨nothing, rfl⟩
  · exact Or.inr rfl

/-- `Receive` stays inside exactly if what follows the header fits. -/
theorem receiveInside_iff
    {payload_length padding_length : Nat}
    (atHeader : self.AtHeader aead payload_length padding_length) :
    self.ReceiveInside aead ↔
      (payload_length + padding_length) % 2 ^ 32 ≤ 1948 := by
  constructor
  · intro inside
    by_contra long
    rw [Nat.not_le] at long
    obtain ⟨op, error, reading, completed, something⟩ :=
      atHeader.completed
    have performed :
        step aead self .resume =
          some (self.resumeHeader aead op.got error) := by
      simp [step, atHeader.running, reading, completed]
    have reached :
        StepSystem.run (step aead) self [.resume] =
          some (self.resumeHeader aead op.got error) := by
      simp [StepSystem.run, performed]
    have outcome := atHeader.resume performed
    generalize (payload_length + padding_length) % 2 ^ 32 = payload_len
      at outcome long
    obtain ⟨running, ⟨nothing, _⟩ | waiting⟩ := outcome
    · omega
    · obtain ⟨piece, accepts, outside⟩ := ReadOp.exists_outside long
      refine inside.later [] _ (.arrive piece)
        ((self.resumeHeader aead op.got error).setFault .outOfBounds)
        reached List.not_mem_nil trivial ?_ rfl
      simp [step, running, waiting, arrive, accepts,
        IConnection.receivePiece, Buffer.store?, outside]
  · intro short
    have opens :
        ∀ started, step aead self .resume = some started →
          ¬ started.OutOfBounds ∧ started.Fits := by
      intro started performed
      obtain ⟨running, shape⟩ := atHeader.resume performed
      refine ⟨by simp [OutOfBounds, running], fun op reads => ?_⟩
      rcases shape with ⟨_, idle⟩ | waiting
      · simp [idle] at reads
      · rw [waiting] at reads
        rcases reads with ⟨⟨⟩⟩ | ⟨⟨⟩⟩
        exact ReadOp.start_fits short
    exact .of_invariant opens
      (fun fits other performed => (fits.step performed).2 other)
      (fun fits _ performed => (fits.step performed).1)

end TcpReceiver

/-! ## The server over TCP -/

/-- The events of the coroutine that is inside `ReceiveFrom`. -/
def TcpServerEvent.ofReceiveFrom : TcpServerEvent → Bool
  | .arrive _ => true
  | .fail _ => true
  | .resume => true
  | _ => false

/-- The events of the `tryReceive` of a socket. -/
def TcpServerEvent.ofTryReceive
    (socket : SocketId) : TcpServerEvent → Bool
  | .arriveTry current _ => current = socket
  | .failTry current _ => current = socket
  | .resumeTry current => current = socket
  | _ => false

def ReceiveLoopPc.Fits (pc : ReceiveLoopPc) : Prop :=
  ∀ socket op,
    pc = .readHeader socket op ∨ pc = .readPayload socket op → op.Fits

def TryReceivePc.Fits (pc : TryReceivePc) : Prop :=
  ∀ op, pc = .readHeader op ∨ pc = .readPayload op → op.Fits

theorem ReceiveLoopPc.Fits.abort
    {pc : ReceiveLoopPc}
    (fits : pc.Fits)
    (target : SocketId) :
    (pc.abort target).Fits := by
  intro socket op reads
  unfold ReceiveLoopPc.abort at reads
  split at reads
  · rename_i reading earlier
    split at reads
    · rcases reads with ⟨⟨⟩⟩ | ⟨⟨⟩⟩
      exact (fits _ earlier (Or.inl rfl)).fail _
    · exact fits socket op reads
  · rename_i reading earlier
    split at reads
    · rcases reads with ⟨⟨⟩⟩ | ⟨⟨⟩⟩
      exact (fits _ earlier (Or.inr rfl)).fail _
    · exact fits socket op reads
  · exact fits socket op reads

theorem ReceiveLoopPc.Fits.wake
    {pc : ReceiveLoopPc}
    (fits : pc.Fits) :
    pc.wake.Fits := by
  cases pc with
  | waitSelected woken => rintro _ _ (⟨⟨⟩⟩ | ⟨⟨⟩⟩)
  | _ => exact fits

theorem TryReceivePc.Fits.abort
    {pc : TryReceivePc}
    (fits : pc.Fits) :
    pc.abort.Fits := by
  intro op reads
  cases pc with
  | notStarted => simp [TryReceivePc.abort] at reads
  | finished => simp [TryReceivePc.abort] at reads
  | readHeader earlier =>
      rcases reads with ⟨⟨⟩⟩ | ⟨⟨⟩⟩
      exact (fits earlier (Or.inl rfl)).fail _
  | readPayload earlier =>
      rcases reads with ⟨⟨⟩⟩ | ⟨⟨⟩⟩
      exact (fits earlier (Or.inr rfl)).fail _

namespace TcpServer

variable {self next : TcpServer}

def OutOfBounds (self : TcpServer) : Prop :=
  self.fault = some .outOfBounds

/-- No handler leaves the arrays; only pieces that arrive can. -/
theorem inside_kept : KeptByReturning fun next => ¬ next.OutOfBounds where
  setPointers := fun _ _ _ inside => inside
  finish := fun _ _ inside => inside
  wake := fun inside => inside
  abort := fun _ inside => inside
  shut := fun _ inside => inside
  record := fun _ _ inside => inside
  nullDereference := fun _ => nofun
  setReceiveLoop := fun _ _ inside => inside
  recordReturned := fun _ inside => inside
  endReceiveLoop := fun inside => inside

theorem startRead_fits
    (self : TcpServer)
    (socket : SocketId)
    {offset want : Nat}
    (fits : (ReadOp.start offset want).Fits) :
    (self.startRead socket offset want).Fits := by
  unfold startRead
  split
  · exact fits
  · exact fits.fail _

/--
`ReceiveFrom` is about to go on from its header read, with a header that
authenticates, on an open connection.
-/
structure ReceiveFromAtHeader
    (aead : Aead 16)
    (payload_length padding_length : Nat)
    (server : TcpServer) : Prop where
  running : server.fault = none
  completed :
    ∃ socket op,
      server.receiveLoop = .readHeader socket op ∧
        op.outcome = some none ∧ op.got ≠ 0
  connected :
    ∃ socket,
      server.connection.conn_socket = some socket ∧
        (server.socket socket).is_open = true
  opens :
    server.connection.toIConnection.OpensTo aead
      payload_length padding_length

/-- `ReceiveFrom` stays inside until it is resumed again, and then. -/
def ReceiveFromInside
    (aead : Aead 16)
    (self : TcpServer) : Prop :=
  StepSystem.AvoidsAfter (step aead) OutOfBounds
    (fun event => event.ofReceiveFrom = true) .resume self

theorem receiveLoopFits_kept :
    KeptByUpdates fun next => next.receiveLoop.Fits where
  setPointers := fun _ _ _ fits => fits
  finish := fun _ _ fits => fits
  wake := fun fits => fits.wake
  abort := fun target fits => fits.abort target
  shut := fun _ fits => fits
  record := fun _ _ fits => fits
  nullDereference := fun fits => fits

theorem receiveLoopFits_receiveFrom
    (fits : self.receiveLoop.Fits) :
    self.receiveFrom.receiveLoop.Fits := by
  unfold TcpServer.receiveFrom
  split
  · split
    · exact fits
    · rintro _ _ (⟨⟨⟩⟩ | ⟨⟨⟩⟩)
      exact self.startRead_fits _ (Nat.le_of_ble_eq_true rfl)
  · rintro _ _ (⟨⟨⟩⟩ | ⟨⟨⟩⟩)

/-- Only a resumption of `ReceiveFrom` starts a read of another length. -/
theorem receiveLoopFits_step
    {event : TcpServerEvent}
    (fits : self.receiveLoop.Fits)
    (other : event ≠ .resume)
    (performed : step aead self event = some next) :
    next.receiveLoop.Fits := by
  obtain ⟨_, transition⟩ := step_transition performed
  cases transition with
  | resumeTryHeader reading _ =>
      exact receiveLoopFits_kept.resumeTryHeader (by simp [reading]) _
        fits (fun _ => fits) fun _ _ => fits
  | resumeTryPayload reading _ =>
      exact receiveLoopFits_kept.resumeTryPayload (by simp [reading]) _ _
        (fun fits => fits) fits fun _ _ _ => fits
  | wake _ => exact (other rfl).elim
  | arriveHeader reading _ _ =>
      have before := fits _ _ (Or.inl reading)
      rintro _ _ (⟨⟨⟩⟩ | ⟨⟨⟩⟩)
      exact before
  | arrivePayload reading _ _ =>
      have before := fits _ _ (Or.inr reading)
      rintro _ _ (⟨⟨⟩⟩ | ⟨⟨⟩⟩)
      exact before
  | failHeader error reading =>
      rintro _ _ (⟨⟨⟩⟩ | ⟨⟨⟩⟩)
      exact (fits _ _ (Or.inl reading)).fail error
  | failPayload error reading =>
      rintro _ _ (⟨⟨⟩⟩ | ⟨⟨⟩⟩)
      exact (fits _ _ (Or.inr reading)).fail error
  | resumeHeader _ _ => exact (other rfl).elim
  | resumePayload _ _ => exact (other rfl).elim
  | tunWritten failed _ =>
      cases failed with
      | false => exact receiveLoopFits_receiveFrom fits
      | true => rintro _ _ (⟨⟨⟩⟩ | ⟨⟨⟩⟩)
  | sendTo packet draw _ =>
      obtain ⟨_, _, _, changed, _⟩ :=
        sendTo_changes aead self packet draw
      rw [changed]
      exact fits
  | resumeSendTo _ => exact receiveLoopFits_kept.resumeSendTo _ _ fits
  | close => exact receiveLoopFits_kept.close fits
  | _ => exact fits

/-- While the read fits, the coroutine's own steps stay inside. -/
theorem receiveFrom_safe
    {event : TcpServerEvent}
    (fits : self.receiveLoop.Fits)
    (own : event.ofReceiveFrom = true)
    (performed : step aead self event = some next) :
    ¬ next.OutOfBounds := by
  obtain ⟨running, transition⟩ := step_transition performed
  have inside : ¬ self.OutOfBounds := by
    rw [OutOfBounds, running]
    nofun
  cases transition with
  | wake _ => exact inside_kept.receiveFrom inside
  | arriveOutside reading accepts outside =>
      have within := (fits _ _ reading).inside accepts
      omega
  | arriveHeader _ _ _ => exact inside
  | arrivePayload _ _ _ => exact inside
  | failHeader _ _ => exact inside
  | failPayload _ _ => exact inside
  | resumeHeader _ _ =>
      exact inside_kept.resumeHeader _ _ _ inside fun _ _ => inside
  | resumePayload _ _ =>
      exact inside_kept.resumePayload _ _ _ inside
        fun _ _ inside => inside
  | _ => cases own

/-- What the header read of `ReceiveFrom` goes on with. -/
theorem ReceiveFromAtHeader.resume
    {payload_length padding_length : Nat}
    (atHeader :
      self.ReceiveFromAtHeader aead payload_length padding_length) :
    ∃ opened,
      step aead self .resume = some opened ∧
        opened.fault = none ∧
        (((payload_length + padding_length) % 2 ^ 32 = 0 ∧
            opened.receiveLoop.Fits) ∨
          ∃ socket,
            opened.receiveLoop =
              .readPayload socket
                (ReadOp.start Size
                  ((payload_length + padding_length) % 2 ^ 32))) := by
  obtain ⟨reading, op, isReading, completed, something⟩ :=
    atHeader.completed
  obtain ⟨socket, current, isOpen⟩ := atHeader.connected
  have length := atHeader.opens.DecryptHeader
  have performed :
      step aead self .resume =
        some (self.resumeHeader aead reading op.got none) :=
    step_of_transition atHeader.running
      (.resumeHeader isReading completed)
  refine ⟨_, performed, ?_⟩
  unfold TcpServer.resumeHeader
  rw [if_neg (by simp), if_neg something]
  simp only [length, current]
  split
  · rename_i nothing
    refine ⟨?_, Or.inl ⟨nothing, ?_⟩⟩
    · unfold TcpServer.receiveFrom
      simp only
      split
      · exact atHeader.running
      · exact atHeader.running
    · unfold TcpServer.receiveFrom
      simp only
      split
      · rintro _ _ (⟨⟨⟩⟩ | ⟨⟨⟩⟩)
        exact startRead_fits _ _ (Nat.le_of_ble_eq_true rfl)
      · rintro _ _ (⟨⟨⟩⟩ | ⟨⟨⟩⟩)
  · refine ⟨atHeader.running, Or.inr ⟨socket, ?_⟩⟩
    simp only [startRead, isOpen, if_true]

/-- `ReceiveFrom` stays inside exactly if what follows the header fits. -/
theorem receiveFromInside_iff
    {payload_length padding_length : Nat}
    (atHeader :
      self.ReceiveFromAtHeader aead payload_length padding_length) :
    self.ReceiveFromInside aead ↔
      (payload_length + padding_length) % 2 ^ 32 ≤ 1948 := by
  obtain ⟨opened, performed, running, shape⟩ := atHeader.resume
  constructor
  · intro inside
    by_contra long
    rw [Nat.not_le] at long
    rcases shape with ⟨nothing, _⟩ | ⟨socket, waiting⟩
    · omega
    · have reached :
          StepSystem.run (step aead) self [.resume] = some opened := by
        simp [StepSystem.run, performed]
      obtain ⟨piece, accepts, outside⟩ := ReadOp.exists_outside long
      exact inside.later [] opened (.arrive piece)
        (opened.setFault .outOfBounds) reached List.not_mem_nil rfl
        (step_of_transition running
          (.arriveOutside (Or.inr waiting) accepts
            (Nat.not_le.mp outside)))
        rfl
  · intro short
    have opens :
        ∀ started, step aead self .resume = some started →
          ¬ started.OutOfBounds ∧ started.receiveLoop.Fits := by
      intro started isStarted
      obtain rfl := Option.some.inj (performed.symm.trans isStarted)
      refine ⟨by simp [OutOfBounds, running], ?_⟩
      rcases shape with ⟨_, fits⟩ | ⟨socket, waiting⟩
      · exact fits
      · rw [waiting]
        rintro _ _ (⟨⟨⟩⟩ | ⟨⟨⟩⟩)
        exact ReadOp.start_fits short
    exact .of_invariant opens receiveLoopFits_step receiveFrom_safe

/--
`tryReceive` is about to go on from its header read, with a header that
authenticates, on an open connection.
-/
structure TryReceiveAtHeader
    (aead : Aead 16)
    (socket : SocketId)
    (payload_length padding_length : Nat)
    (server : TcpServer) : Prop where
  running : server.fault = none
  completed :
    ∃ op error,
      server.tryReceive socket = .readHeader op ∧
        op.outcome = some error ∧ op.got ≠ 0
  connected : (server.socket socket).is_open = true
  opens :
    server.connection.toIConnection.OpensTo aead
      payload_length padding_length

/-- `tryReceive` stays inside until it is resumed again, and then. -/
def TryReceiveInside
    (aead : Aead 16)
    (socket : SocketId)
    (self : TcpServer) : Prop :=
  StepSystem.AvoidsAfter (step aead) OutOfBounds
    (fun event => event.ofTryReceive socket = true)
    (.resumeTry socket) self

theorem setTryReceive_fits
    {socket target : SocketId}
    {pc : TryReceivePc}
    (fits : (self.tryReceive socket).Fits)
    (pcFits : socket = target → pc.Fits) :
    ((setTryReceive target pc self).tryReceive socket).Fits := by
  simp only [setTryReceive]
  by_cases same : socket = target
  · subst same
    rw [Function.update_self]
    exact pcFits rfl
  · rw [Function.update_of_ne same]
    exact fits

theorem tryReceiveFits_kept
    (socket : SocketId) :
    KeptByReturning fun next => (next.tryReceive socket).Fits where
  setPointers := fun _ _ _ fits => fits
  finish := fun _ _ fits =>
    setTryReceive_fits fits fun _ _ reads => by simp at reads
  wake := fun fits => fits
  abort := fun {server} target fits => by
    rcases server.abort_tryReceive target socket with same | aborted
    · rw [same]
      exact fits
    · rw [aborted]
      exact fits.abort
  shut := fun _ fits => fits
  record := fun _ _ fits => fits
  nullDereference := fun fits => fits
  setReceiveLoop := fun _ _ fits => fits
  recordReturned := fun _ fits => fits
  endReceiveLoop := fun fits => fits

/-- Only a resumption of the handshake starts a read of another length. -/
theorem tryReceiveFits_step
    {socket : SocketId}
    {event : TcpServerEvent}
    (fits : (self.tryReceive socket).Fits)
    (other : event ≠ .resumeTry socket)
    (performed : step aead self event = some next) :
    (next.tryReceive socket).Fits := by
  have kept := tryReceiveFits_kept socket
  have elsewhere
      {target : SocketId}
      (resumes : event = .resumeTry target) :
      socket ≠ target :=
    fun same => other (same ▸ resumes)
  obtain ⟨_, transition⟩ := step_transition performed
  cases transition with
  | resumeAccept _ =>
      have started :
          ((setTryReceive self.accepted
              (.readHeader (ReadOp.start 0 Size)) self).tryReceive
            socket).Fits := by
        apply setTryReceive_fits fits
        rintro _ _ (⟨⟨⟩⟩ | ⟨⟨⟩⟩)
        exact Nat.le_of_ble_eq_true rfl
      exact started
  | @arriveTryHeader target op piece reading _ _ =>
      apply setTryReceive_fits (by exact fits)
      rintro rfl _ (⟨⟨⟩⟩ | ⟨⟨⟩⟩)
      have before := fits op (Or.inl reading)
      exact before
  | @arriveTryPayload target op piece reading _ _ =>
      apply setTryReceive_fits (by exact fits)
      rintro rfl _ (⟨⟨⟩⟩ | ⟨⟨⟩⟩)
      have before := fits op (Or.inr reading)
      exact before
  | @failTryHeader target op error reading =>
      apply setTryReceive_fits fits
      rintro rfl _ (⟨⟨⟩⟩ | ⟨⟨⟩⟩)
      exact (fits op (Or.inl reading)).fail error
  | @failTryPayload target op error reading =>
      apply setTryReceive_fits fits
      rintro rfl _ (⟨⟨⟩⟩ | ⟨⟨⟩⟩)
      exact (fits op (Or.inr reading)).fail error
  | resumeTryHeader reading _ =>
      refine kept.resumeTryHeader (by simp [reading]) _
        fits (fun _ => fits) fun _ _ => ?_
      exact setTryReceive_fits (by exact fits)
        fun same => (elsewhere rfl same).elim
  | resumeTryPayload reading _ =>
      exact kept.resumeTryPayload (by simp [reading]) _ _
        (fun fits => fits) fits fun _ _ _ => fits
  | wake _ => exact kept.receiveFrom fits
  | resumeHeader _ _ =>
      exact kept.resumeHeader _ _ _ fits fun _ _ => fits
  | resumePayload _ _ =>
      exact kept.resumePayload _ _ _ fits fun _ _ fits => fits
  | tunWritten failed _ =>
      cases failed with
      | false => exact kept.receiveFrom fits
      | true => exact fits
  | sendTo packet draw _ =>
      obtain ⟨_, _, _, changed, _⟩ :=
        sendTo_changes aead self packet draw
      rw [changed]
      exact fits
  | resumeSendTo _ => exact kept.resumeSendTo _ _ fits
  | close => exact kept.close fits
  | _ => exact fits

/-- While the read fits, the handshake's own steps stay inside. -/
theorem tryReceive_safe
    {socket : SocketId}
    {event : TcpServerEvent}
    (fits : (self.tryReceive socket).Fits)
    (own : event.ofTryReceive socket = true)
    (performed : step aead self event = some next) :
    ¬ next.OutOfBounds := by
  obtain ⟨running, transition⟩ := step_transition performed
  have inside : ¬ self.OutOfBounds := by
    rw [OutOfBounds, running]
    nofun
  cases transition with
  | arriveTryHeader _ _ _ => exact inside
  | arriveTryPayload _ _ _ => exact inside
  | arriveTryOutside reading accepts outside =>
      obtain rfl := of_decide_eq_true own
      have within := (fits _ reading).inside accepts
      omega
  | failTryHeader _ _ => exact inside
  | failTryPayload _ _ => exact inside
  | resumeTryHeader reading _ =>
      exact inside_kept.resumeTryHeader (by simp [reading]) _ inside
        (fun _ => inside) fun _ _ => inside
  | resumeTryPayload reading _ =>
      exact inside_kept.resumeTryPayload (by simp [reading]) _ _
        (fun _ => nofun) inside fun _ _ _ => inside
  | _ => cases own

/-- What the header read of `tryReceive` goes on with. -/
theorem TryReceiveAtHeader.resume
    {socket : SocketId}
    {payload_length padding_length : Nat}
    (atHeader :
      self.TryReceiveAtHeader aead socket
        payload_length padding_length) :
    ∃ opened,
      step aead self (.resumeTry socket) = some opened ∧
        opened.fault = none ∧
        (((payload_length + padding_length) % 2 ^ 32 = 0 ∧
            opened.tryReceive socket = .finished) ∨
          opened.tryReceive socket =
            .readPayload
              (ReadOp.start Size
                ((payload_length + padding_length) % 2 ^ 32))) := by
  obtain ⟨op, error, reading, completed, something⟩ :=
    atHeader.completed
  have length := atHeader.opens.DecryptHeader
  have performed :
      step aead self (.resumeTry socket) =
        some (self.resumeTryHeader aead socket op.got) :=
    step_of_transition atHeader.running
      (.resumeTryHeader reading completed)
  refine ⟨_, performed, ?_⟩
  unfold TcpServer.resumeTryHeader
  rw [if_neg something]
  simp only [length]
  split
  · rename_i nothing
    exact ⟨atHeader.running,
      Or.inl ⟨nothing, Function.update_self _ _ _⟩⟩
  · refine ⟨atHeader.running, Or.inr ?_⟩
    simp only [startRead, atHeader.connected, if_true,
      Function.update_self]

/-- `tryReceive` stays inside exactly if what follows the header fits. -/
theorem tryReceiveInside_iff
    {socket : SocketId}
    {payload_length padding_length : Nat}
    (atHeader :
      self.TryReceiveAtHeader aead socket
        payload_length padding_length) :
    self.TryReceiveInside aead socket ↔
      (payload_length + padding_length) % 2 ^ 32 ≤ 1948 := by
  obtain ⟨opened, performed, running, shape⟩ := atHeader.resume
  constructor
  · intro inside
    by_contra long
    rw [Nat.not_le] at long
    rcases shape with ⟨nothing, _⟩ | waiting
    · omega
    · have reached :
          StepSystem.run (step aead) self [.resumeTry socket] =
            some opened := by
        simp [StepSystem.run, performed]
      obtain ⟨piece, accepts, outside⟩ := ReadOp.exists_outside long
      exact inside.later [] opened (.arriveTry socket piece)
        (opened.setFault .outOfBounds) reached List.not_mem_nil
        (decide_eq_true rfl)
        (step_of_transition running
          (.arriveTryOutside (Or.inr waiting) accepts
            (Nat.not_le.mp outside)))
        rfl
  · intro short
    have opens :
        ∀ started, step aead self (.resumeTry socket) = some started →
          ¬ started.OutOfBounds ∧ (started.tryReceive socket).Fits := by
      intro started isStarted
      obtain rfl := Option.some.inj (performed.symm.trans isStarted)
      refine ⟨by simp [OutOfBounds, running], ?_⟩
      rcases shape with ⟨_, finished⟩ | waiting
      · rw [finished]
        rintro _ (⟨⟨⟩⟩ | ⟨⟨⟩⟩)
      · rw [waiting]
        rintro _ (⟨⟨⟩⟩ | ⟨⟨⟩⟩)
        exact ReadOp.start_fits short
    exact .of_invariant opens tryReceiveFits_step tryReceive_safe

end TcpServer

/-! ## All receive paths -/

/--
Over UDP decoding stays inside the buffers.  Over TCP it does, on each of the
three paths and whatever follows, exactly if the two lengths of the header add
up to at most 1948, modulo `2 ^ 32`.
-/
theorem decoding_inside_iff
    {Endpoint : Type}
    [DecidableEq Endpoint]
    (aead : Aead 16)
    (payload_length padding_length : Nat) :
    (∀ (self : UDPConnection Endpoint) (mtu : Nat)
        (arrival : Option (Endpoint × List UInt8)),
      mtu ≤ 1500 →
      (self.ReceiveFrom aead (mtu + Size) arrival).isSome ∧
        (self.Receive aead (mtu + Size) arrival).isSome) ∧
    (∀ receiver : TcpReceiver,
      receiver.AtHeader aead payload_length padding_length →
      (receiver.ReceiveInside aead ↔
        (payload_length + padding_length) % 2 ^ 32 ≤ 1948)) ∧
    (∀ server : TcpServer,
      server.ReceiveFromAtHeader aead payload_length padding_length →
      (server.ReceiveFromInside aead ↔
        (payload_length + padding_length) % 2 ^ 32 ≤ 1948)) ∧
    (∀ (server : TcpServer) (socket : SocketId),
      server.TryReceiveAtHeader aead socket
        payload_length padding_length →
      (server.TryReceiveInside aead socket ↔
        (payload_length + padding_length) % 2 ^ 32 ≤ 1948)) := by
  refine ⟨?_, ?_, ?_, ?_⟩
  · intro self mtu arrival small
    have fits : mtu + Size ≤ 2000 := by
      simp only [Size]
      omega
    exact ⟨self.ReceiveFrom_isSome aead fits arrival,
      self.Receive_isSome aead fits arrival⟩
  · exact fun _ atHeader => TcpReceiver.receiveInside_iff atHeader
  · exact fun _ atHeader => TcpServer.receiveFromInside_iff atHeader
  · exact fun _ _ atHeader => TcpServer.tryReceiveInside_iff atHeader

/-- A header that a peer with the key seals for a frame of padding. -/
def longHeader : List UInt8 :=
  let nonce := List.replicate 12 1
  let lengths := word32 0 ++ word32 1949
  let sealed :=
    Aead.checksumAead.encrypt (AES256GCM.keyOf [49]) nonce lengths
  nonce ++ sealed.2 ++ List.replicate 16 0 ++ sealed.1

theorem longHeader_tryReceive :
    ∃ state,
      StepSystem.run (TcpServer.step Aead.checksumAead)
          TcpServer.exampleStart
          [.incoming, .resumeAccept, .arriveTry 0 longHeader] =
        some state ∧
      state.TryReceiveAtHeader Aead.checksumAead 0 0 1949 ∧
      ¬ state.TryReceiveInside Aead.checksumAead 0 := by
  have performed :
      (StepSystem.run (TcpServer.step Aead.checksumAead)
          TcpServer.exampleStart
          [.incoming, .resumeAccept, .arriveTry 0 longHeader]).map
            (fun state =>
              (state.fault, state.tryReceive 0,
                (state.socket 0).is_open,
                decide
                  (state.connection.OpensTo Aead.checksumAead 0 1949))) =
        some
          (none, .readHeader ⟨0, 52, 52, some none⟩, true, true) := by
    decide +kernel
  obtain ⟨state, reached, shape⟩ :=
    Option.map_eq_some_iff.mp performed
  simp only [Prod.mk.injEq] at shape
  obtain ⟨running, reading, isOpen, authentic⟩ := shape
  have atHeader :
      state.TryReceiveAtHeader Aead.checksumAead 0 0 1949 :=
    { running := running
      completed := ⟨_, _, reading, rfl, nofun⟩
      connected := isOpen
      opens := of_decide_eq_true authentic }
  refine ⟨state, reached, atHeader, fun inside => ?_⟩
  have short := (TcpServer.tryReceiveInside_iff atHeader).mp inside
  simp at short

theorem longHeader_receiveFrom :
    ∃ state,
      StepSystem.run (TcpServer.step Aead.checksumAead)
          TcpServer.exampleStart
          (TcpServer.connects 0 1 ++ [.resume, .arrive longHeader]) =
        some state ∧
      state.ReceiveFromAtHeader Aead.checksumAead 0 1949 ∧
      ¬ state.ReceiveFromInside Aead.checksumAead := by
  have performed :
      (StepSystem.run (TcpServer.step Aead.checksumAead)
          TcpServer.exampleStart
          (TcpServer.connects 0 1 ++ [.resume, .arrive longHeader])).map
            (fun state =>
              ((state.fault, state.receiveLoop),
                (state.connection.conn_socket, (state.socket 0).is_open),
                decide
                  (state.connection.OpensTo Aead.checksumAead 0 1949))) =
        some
          ((none, .readHeader 0 ⟨0, 52, 52, some none⟩), (some 0, true),
            true) := by
    decide +kernel
  obtain ⟨state, reached, shape⟩ :=
    Option.map_eq_some_iff.mp performed
  simp only [Prod.mk.injEq] at shape
  obtain ⟨⟨running, reading⟩, ⟨current, isOpen⟩, authentic⟩ := shape
  have atHeader :
      state.ReceiveFromAtHeader Aead.checksumAead 0 1949 :=
    { running := running
      completed := ⟨_, _, reading, rfl, nofun⟩
      connected := ⟨_, current, isOpen⟩
      opens := of_decide_eq_true authentic }
  refine ⟨state, reached, atHeader, fun inside => ?_⟩
  have short := (TcpServer.receiveFromInside_iff atHeader).mp inside
  simp at short

theorem longHeader_receive :
    ∃ receiver,
      StepSystem.run (TcpReceiver.step Aead.checksumAead)
          (TcpReceiver.create
            { TCPConnection.create [49] with conn_socket := some 0 })
          [.call, .arrive longHeader] =
        some receiver ∧
      receiver.AtHeader Aead.checksumAead 0 1949 ∧
      ¬ receiver.ReceiveInside Aead.checksumAead := by
  have performed :
      (StepSystem.run (TcpReceiver.step Aead.checksumAead)
          (TcpReceiver.create
            { TCPConnection.create [49] with conn_socket := some 0 })
          [.call, .arrive longHeader]).map
            (fun receiver =>
              (receiver.fault, receiver.pc,
                receiver.connection.conn_socket,
                decide
                  (receiver.connection.OpensTo Aead.checksumAead 0 1949))) =
        some
          (none, .readHeader ⟨0, 52, 52, some none⟩, some 0, true) := by
    decide +kernel
  obtain ⟨receiver, reached, shape⟩ :=
    Option.map_eq_some_iff.mp performed
  simp only [Prod.mk.injEq] at shape
  obtain ⟨running, reading, current, authentic⟩ := shape
  have atHeader :
      receiver.AtHeader Aead.checksumAead 0 1949 :=
    { running := running
      completed := ⟨_, _, reading, rfl, nofun⟩
      connected := by
        rw [current]
        exact Option.some_ne_none _
      opens := of_decide_eq_true authentic }
  refine ⟨receiver, reached, atHeader, fun inside => ?_⟩
  have short := (TcpReceiver.receiveInside_iff atHeader).mp inside
  simp at short

/-- On each of the three paths the header can be received. -/
theorem longHeader_outside :
    (∃ state,
      StepSystem.run (TcpServer.step Aead.checksumAead)
          TcpServer.exampleStart
          [.incoming, .resumeAccept, .arriveTry 0 longHeader] =
        some state ∧
      state.TryReceiveAtHeader Aead.checksumAead 0 0 1949 ∧
      ¬ state.TryReceiveInside Aead.checksumAead 0) ∧
    (∃ state,
      StepSystem.run (TcpServer.step Aead.checksumAead)
          TcpServer.exampleStart
          (TcpServer.connects 0 1 ++ [.resume, .arrive longHeader]) =
        some state ∧
      state.ReceiveFromAtHeader Aead.checksumAead 0 1949 ∧
      ¬ state.ReceiveFromInside Aead.checksumAead) ∧
    ∃ receiver,
      StepSystem.run (TcpReceiver.step Aead.checksumAead)
          (TcpReceiver.create
            { TCPConnection.create [49] with conn_socket := some 0 })
          [.call, .arrive longHeader] =
        some receiver ∧
      receiver.AtHeader Aead.checksumAead 0 1949 ∧
      ¬ receiver.ReceiveInside Aead.checksumAead :=
  ⟨longHeader_tryReceive, longHeader_receiveFrom, longHeader_receive⟩

end

end Dsvpn
