import Dsvpn.Selection

namespace Dsvpn

open ProtocolHeader

/-!
# How `ReceiveFrom` returns

`ReceiveFrom` retries after most errors.  It returns after `Close`, or with a
payload that authenticated; but the error of a failed payload read is not
looked at, and it is still set when the payload authenticates all the same.
The receive loop ends on it.
-/

/-- The result is the length of bytes that authenticated under the key. -/
def AuthenticPayload
    (aead : Aead 16)
    (key : List UInt8)
    (result : Returned) : Prop :=
  result.value = result.packet.length ∧
    ∃ nonce ciphertext tag,
      aead.decrypt key nonce ciphertext tag = some result.packet

namespace TcpServer

/--
If `ReceiveFrom` goes on from a payload read that failed after some byte, then
`DecryptPayload` rejects what is in the buffer.
-/
def failedReadRejected
    (aead : Aead 16)
    (self : TcpServer)
    (event : TcpServerEvent) : Bool :=
  match event with
  | .resume =>
      match self.receiveLoop with
      | .readPayload _ ⟨_, _, got, some (some _)⟩ =>
          got == 0 ||
            !self.connection.protocol.acceptsPayload aead
              self.connection.conn_recv_buffer
      | _ => true
  | _ => true

/-- `ReceiveFrom` does not return, and the receive loop does not end. -/
structure Silent (server next : TcpServer) : Prop where
  packets : next.packets = server.packets
  ended : next.receiveLoop = .ended → server.receiveLoop = .ended

/-- What one step can make `ReceiveFrom` return. -/
inductive ReturnStep
    (aead : Aead 16)
    (server : TcpServer)
    (event : TcpServerEvent)
    (next : TcpServer) : Prop where
  | silent :
      server.failedReadRejected aead event = true →
      Silent server next →
      ReturnStep aead server event next
  | deviceFailed :
      event = .tunWritten true →
      next.packets = server.packets →
      ReturnStep aead server event next
  | stops
      (error : Option ErrorCode)
      (packet : List UInt8) :
      server.failedReadRejected aead event = true →
      server.connection.stopped = true →
      next.packets = server.packets ++ [⟨-1, error, packet⟩] →
      ReturnStep aead server event next
  | opens
      (error : Option ErrorCode)
      (packet : List UInt8) :
      server.failedReadRejected aead event = error.isNone →
      AuthenticPayload aead server.key
        ⟨packet.length, error, packet⟩ →
      next.packets =
        server.packets ++ [⟨packet.length, error, packet⟩] →
      (next.receiveLoop = .ended → error.isSome) →
      ReturnStep aead server event next

section

variable
    {aead : Aead 16}
    {self next : TcpServer}

theorem Silent.refl : Silent self self where
  packets := rfl
  ended := id

theorem ReceiveLoopPc.abort_eq_ended
    {pc : ReceiveLoopPc}
    {socket : SocketId}
    (aborted : pc.abort socket = .ended) :
    pc = .ended := by
  unfold ReceiveLoopPc.abort at aborted
  split at aborted
  · split at aborted <;> cases aborted
  · split at aborted <;> cases aborted
  · exact aborted

theorem Silent.kept :
    KeptByReceiving (fun next => Silent self next) where
  setPointers := fun _ _ _ silent => { silent with }
  finish := fun _ _ silent => { silent with }
  wake := fun {server} silent =>
    { packets := silent.packets
      ended := fun ended => by
        apply silent.ended
        simp only [setReceiveLoop, ReceiveLoopPc.wake] at ended
        split at ended
        · cases ended
        · exact ended }
  setReceiveLoop := fun _ goesOn silent =>
    { packets := silent.packets
      ended := fun ended => (goesOn ended).elim }
  abort := fun _ silent =>
    { packets := silent.packets
      ended := fun ended =>
        silent.ended (ReceiveLoopPc.abort_eq_ended ended) }
  shut := fun _ silent => { silent with }
  record := fun {server} action unreturned silent =>
    { packets := by
        rw [← silent.packets]
        simp [TcpServer.packets, TcpServer.record, unreturned]
      ended := silent.ended }
  nullDereference := fun silent => { silent with }

theorem packets_receiveFrom :
    self.receiveFrom.packets = self.packets :=
  (Silent.kept.receiveFrom Silent.refl).packets

theorem packets_returnFrom
    (bytes_read : Int)
    (error : Option ErrorCode) :
    (self.returnFrom bytes_read error).packets =
      self.packets ++
        [⟨bytes_read, error,
          self.connection.conn_recv_buffer.slice
            Size bytes_read.toNat⟩] := by
  have recorded (result : Returned) :
      (self.record (.returned result)).packets =
        self.packets ++ [result] := by
    simp [TcpServer.packets, TcpServer.record, Action.returned?]
  unfold TcpServer.returnFrom
  simp only
  split
  · exact recorded _
  · split
    · exact recorded _
    · split
      · exact packets_receiveFrom.trans (recorded _)
      · rename_i packet _
        have silent (state : TcpServer) :
            (state.record (.tunWritten packet)).packets =
              state.packets :=
          (Silent.kept.record (.tunWritten packet) rfl
            Silent.refl).packets
        exact (silent _).trans (recorded _)

/-- The receive loop ends on an error, or on the value that says stopped. -/
theorem ended_returnFrom
    {bytes_read : Int}
    {error : Option ErrorCode}
    (value : bytes_read ≠ -1)
    (running : self.receiveLoop ≠ .ended)
    (ended : (self.returnFrom bytes_read error).receiveLoop = .ended) :
    error.isSome := by
  have goesOn
      (state : TcpServer)
      (before : state.receiveLoop ≠ .ended) :
      state.receiveFrom.receiveLoop ≠ .ended := fun after =>
    before ((Silent.kept.receiveFrom Silent.refl).ended after)
  unfold TcpServer.returnFrom at ended
  simp only [if_neg value] at ended
  split at ended
  · assumption
  · split at ended
    · exact (goesOn _ (by exact running) ended).elim
    · cases ended

theorem returnStep_resumeHeader
    {socket : SocketId}
    {op : ReadOp}
    (reading : self.receiveLoop = .readHeader socket op)
    (bytes_read : Nat)
    (error : Option ErrorCode) :
    ReturnStep aead self .resume
      (self.resumeHeader aead socket bytes_read error) := by
  have rejected : self.failedReadRejected aead .resume = true := by
    simp [failedReadRejected, reading]
  cases error with
  | none =>
      exact .silent rejected
        (Silent.kept.resumeHeader socket bytes_read Silent.refl
          fun _ => { Silent.refl with })
  | some error =>
      have failed : Silent self (self.record (.readFailed socket)) :=
        Silent.kept.record _ rfl Silent.refl
      unfold TcpServer.resumeHeader
      rw [if_pos (by simp)]
      simp only
      split
      · rename_i stopped
        exact .stops (some error) _ rejected stopped
          ((packets_returnFrom _ _).trans
            (congrArg (· ++ _) failed.packets))
      · exact .silent rejected (Silent.kept.loseConnection failed)

/-- A payload read with an error, or with none, and its part in the log. -/
theorem silent_readFailed
    (self : TcpServer)
    (socket : SocketId)
    (error : Option ErrorCode) :
    Silent self
      (if error.isSome then
        self.record (.readFailed socket)
      else
        self) := by
  split
  · exact Silent.kept.record _ rfl Silent.refl
  · exact Silent.refl

theorem returnStep_resumePayload
    {socket : SocketId}
    {op : ReadOp}
    {error : Option ErrorCode}
    (reading : self.receiveLoop = .readPayload socket op)
    (completed : op.outcome = some error) :
    ReturnStep aead self .resume
      (self.resumePayload aead socket op.got error) := by
  obtain ⟨offset, want, got, outcome⟩ := op
  simp only at completed
  subst completed
  have silent := silent_readFailed self socket error
  have connection :
      (if error.isSome then
        self.record (.readFailed socket)
      else
        self).connection = self.connection := by
    split <;> rfl
  have running :
      (if error.isSome then
        self.record (.readFailed socket)
      else
        self).receiveLoop ≠ .ended := by
    split <;> simp [record, reading]
  unfold TcpServer.resumePayload
  simp only
  generalize
    (if error.isSome then
      self.record (.readFailed socket)
    else
      self) = state at silent connection running ⊢
  split
  · rename_i nothing
    refine .silent ?_ (Silent.kept.receiveFrom silent)
    cases error with
    | none => simp [failedReadRejected, reading]
    | some error => simp [failedReadRejected, reading, nothing]
  · rename_i something
    rw [connection]
    rcases self.connection.protocol.DecryptPayload_cases aead
        self.connection.conn_recv_buffer with
        ⟨plaintext, fits, length, authentic, opens⟩ | rejects
    · simp only [opens, if_true]
      have sameLength :
          PAYLOAD_LENGTH
              (self.connection.conn_recv_buffer.overwrite
                Size plaintext) =
            plaintext.length := by
        rw [PAYLOAD_LENGTH,
          Buffer.slice_overwrite_disjoint _ (Or.inl (by simp [Size]))]
        exact length.symm
      have packet :
          (self.connection.conn_recv_buffer.overwrite
              Size plaintext).slice Size plaintext.length =
            plaintext :=
        Buffer.slice_overwrite_same _ _ _
          (by simp only [Size, MAX_BUFFSIZE] at *; omega)
      refine .opens error plaintext ?_ ?_ ?_ ?_
      · cases error with
        | none => simp [failedReadRejected, reading]
        | some error =>
            simp [failedReadRejected, reading, something,
              Protocol.acceptsPayload, opens]
      · exact ⟨rfl, _, _, _, authentic⟩
      · rw [packets_returnFrom, sameLength]
        simp only [Int.toNat_natCast, packet]
        exact congrArg (· ++ _) silent.packets
      · rw [sameLength]
        refine ended_returnFrom ?_ ?_
        · omega
        · exact running
    · simp only [rejects, Bool.false_eq_true, if_false]
      refine .silent ?_
        (Silent.kept.receiveFrom
          { silent with })
      cases error with
      | none => simp [failedReadRejected, reading]
      | some error =>
          simp [failedReadRejected, reading,
            Protocol.acceptsPayload, rejects]

theorem silent_sendTo
    (packet : List UInt8)
    (draw : SendDraw) :
    Silent self (self.sendTo aead packet draw) := by
  obtain ⟨_, _, _, changed, _⟩ := sendTo_changes aead self packet draw
  rw [changed]
  exact { Silent.refl with }

/-- What a step can make `ReceiveFrom` return. -/
theorem step_returns
    {event : TcpServerEvent}
    (performed : TcpServer.step aead self event = some next) :
    ReturnStep aead self event next := by
  obtain ⟨_, transition⟩ := step_transition performed
  cases transition with
  | resumeTryHeader reading _ =>
      exact .silent rfl (Silent.kept.resumeTryHeader
        (by simp [reading]) _ Silent.refl
        (fun _ => { Silent.refl with })
        fun _ _ => { Silent.refl with })
  | resumeTryPayload reading _ =>
      exact .silent rfl (Silent.kept.resumeTryPayload
        (by simp [reading]) _ _ (fun silent => { silent with })
        Silent.refl fun _ _ _ => { Silent.refl with })
  | wake waiting =>
      exact .silent (by simp [failedReadRejected, waiting])
        (Silent.kept.receiveFrom Silent.refl)
  | arriveHeader reading _ _ =>
      exact .silent rfl ⟨rfl, nofun⟩
  | arrivePayload reading _ _ =>
      exact .silent rfl ⟨rfl, nofun⟩
  | failHeader _ _ => exact .silent rfl ⟨rfl, nofun⟩
  | failPayload _ _ => exact .silent rfl ⟨rfl, nofun⟩
  | resumeHeader reading _ => exact returnStep_resumeHeader reading _ _
  | resumePayload reading completed =>
      exact returnStep_resumePayload reading completed
  | tunWritten failed _ =>
      cases failed with
      | false =>
          exact .silent rfl (Silent.kept.receiveFrom Silent.refl)
      | true => exact .deviceFailed rfl rfl
  | sendTo packet draw _ => exact .silent rfl (silent_sendTo _ _)
  | resumeSendTo _ =>
      exact .silent rfl (Silent.kept.resumeSendTo _ _
        { Silent.refl with })
  | close => exact .silent rfl (Silent.kept.close Silent.refl)
  | _ => exact .silent rfl { Silent.refl with }

/-- Every result says that the connection was stopped, or authenticated. -/
def ReturnsTrusted
    (aead : Aead 16)
    (key : List UInt8)
    (server : TcpServer) : Prop :=
  server.key = key ∧
    ∀ result ∈ server.packets,
      (result.value = -1 ∧ server.connection.stopped = true) ∨
        AuthenticPayload aead key result

/--
`ReceiveFrom` returned only after `Close`, or a payload that authenticated,
without an error.
-/
def ReturnsProperly
    (aead : Aead 16)
    (key : List UInt8)
    (server : TcpServer) : Prop :=
  ∀ result ∈ server.packets,
    (result.value = -1 ∧ server.connection.stopped = true) ∨
      (result.error = none ∧ AuthenticPayload aead key result)

/-- No authenticated payload came with an error. -/
def ReturnsClear (server : TcpServer) : Prop :=
  ∀ result ∈ server.packets, result.value = -1 ∨ result.error = none

theorem SelectionStep.stopped
    {event : TcpServerEvent}
    (step : SelectionStep self event next)
    (stopped : self.connection.stopped = true) :
    next.connection.stopped = true := by
  change self.selection.stopped = true at stopped
  change next.selection.stopped = true
  cases step with
  | unchanged same => rw [same, stopped]
  | first _ _ _ _ _ same => rw [same, stopped]
  | replacing _ _ _ _ _ same => rw [same, stopped]
  | lost _ _ same => rw [same, stopped]
  | swapped _ _ _ same => rw [same, stopped]
  | deselected _ _ _ same => rw [same, stopped]
  | refused _ same => rw [same, stopped]
  | closed _ _ same => rw [same]

theorem ReturnsTrusted.step
    {key : List UInt8}
    {event : TcpServerEvent}
    (trusted : self.ReturnsTrusted aead key)
    (performed : TcpServer.step aead self event = some next) :
    next.ReturnsTrusted aead key := by
  obtain ⟨sameKey, results⟩ := trusted
  have staysStopped := (step_selection performed).stopped
  have earlier :
      ∀ result ∈ self.packets,
        (result.value = -1 ∧ next.connection.stopped = true) ∨
          AuthenticPayload aead key result :=
    fun result member =>
      (results result member).imp_left fun minus =>
        ⟨minus.1, staysStopped minus.2⟩
  refine ⟨(step_key performed).trans sameKey, ?_⟩
  cases step_returns performed with
  | silent _ silent =>
      rw [silent.packets]
      exact earlier
  | deviceFailed _ same =>
      rw [same]
      exact earlier
  | stops error packet _ stopped more =>
      rw [more]
      intro result member
      rcases List.mem_append.mp member with before | now
      · exact earlier result before
      · obtain rfl := List.mem_singleton.mp now
        exact Or.inl ⟨rfl, staysStopped stopped⟩
  | opens error packet _ authentic more _ =>
      rw [more]
      intro result member
      rcases List.mem_append.mp member with before | now
      · exact earlier result before
      · obtain rfl := List.mem_singleton.mp now
        exact Or.inr (sameKey ▸ authentic)

/-- One step returns no error exactly under the condition. -/
theorem step_returnsClear_iff
    {event : TcpServerEvent}
    (performed : TcpServer.step aead self event = some next) :
    next.ReturnsClear ↔
      self.ReturnsClear ∧
        self.failedReadRejected aead event = true := by
  cases step_returns performed with
  | silent rejected silent =>
      simp only [ReturnsClear, silent.packets, rejected, and_true]
  | deviceFailed isFailure same =>
      simp [ReturnsClear, same, isFailure, failedReadRejected]
  | stops error packet rejected stopped more =>
      simp [ReturnsClear, more, rejected, or_imp, forall_and]
  | opens error packet rejected authentic more _ =>
      have positive : (packet.length : Int) ≠ -1 := by omega
      simp [ReturnsClear, more, rejected, or_imp, forall_and, positive,
        Option.isNone_iff_eq_none]

theorem returnsTrusted_of_run
    {conn_key : List UInt8}
    {addresses : Server}
    {events : List TcpServerEvent}
    (reached :
      StepSystem.run (TcpServer.step aead)
          (TcpServer.create conn_key addresses) events =
        some next) :
    next.ReturnsTrusted aead (AES256GCM.keyOf conn_key) :=
  StepSystem.run_invariant
    (fun trusted performed => trusted.step performed)
    (⟨rfl, nofun⟩ :
      (TcpServer.create conn_key addresses).ReturnsTrusted aead
        (AES256GCM.keyOf conn_key))
    reached

/-- Under the condition the receive loop ends only in two ways. -/
theorem ended_of_run
    {conn_key : List UInt8}
    {addresses : Server}
    {events : List TcpServerEvent}
    (rejected :
      StepSystem.Along (TcpServer.step aead)
        (fun state event => state.failedReadRejected aead event = true)
        (TcpServer.create conn_key addresses) events)
    (reached :
      StepSystem.run (TcpServer.step aead)
          (TcpServer.create conn_key addresses) events =
        some next)
    (ended : next.receiveLoop = .ended) :
    next.connection.stopped = true ∨ .tunWritten true ∈ events := by
  let Invariant
      (past : List TcpServerEvent)
      (server : TcpServer) : Prop :=
    server.receiveLoop = .ended →
      server.connection.stopped = true ∨ .tunWritten true ∈ past
  have initially : Invariant [] (TcpServer.create conn_key addresses) :=
    nofun
  have invariant :
      Invariant ([] ++ events.flatMap fun event => [event]) next := by
    refine StepSystem.run_invariant_observing ?_ initially rejected
      (List.prefix_refl _) reached
    intro past server event after invariant rejects _ performed isEnded
    have staysStopped := (step_selection performed).stopped
    cases step_returns performed with
    | silent _ silent =>
        rcases invariant (silent.ended isEnded) with stopped | failed
        · exact Or.inl (staysStopped stopped)
        · exact Or.inr (List.mem_append_left _ failed)
    | deviceFailed isFailure _ =>
        subst isFailure
        exact Or.inr (List.mem_append_right _ (List.mem_singleton_self _))
    | stops _ _ _ stopped _ => exact Or.inl (staysStopped stopped)
    | opens error _ same _ _ hasError =>
        rw [rejects] at same
        have fails := hasError isEnded
        rw [Option.isSome_iff_ne_none] at fails
        exact (fails (Option.isNone_iff_eq_none.mp same.symm)).elim
  have either := invariant ended
  simpa using either

/--
In every run `ReceiveFrom` returns properly, and the receive loop runs until
`Close` as long as the TUN device works, exactly if no payload that
authenticates is found in the buffer after a failed payload read.
-/
theorem returns_properly_iff
    (aead : Aead 16)
    (conn_key : List UInt8)
    (addresses : Server)
    (events : List TcpServerEvent)
    (state : TcpServer)
    (reached :
      StepSystem.run (TcpServer.step aead)
          (TcpServer.create conn_key addresses) events =
        some state) :
    (ReturnsProperly aead (AES256GCM.keyOf conn_key) state ∧
      (state.receiveLoop = .ended →
        state.connection.stopped = true ∨
          .tunWritten true ∈ events)) ↔
      StepSystem.Along (TcpServer.step aead)
        (fun state event => state.failedReadRejected aead event = true)
        (TcpServer.create conn_key addresses) events := by
  have exactly :
      state.ReturnsClear ↔
        (TcpServer.create conn_key addresses).ReturnsClear ∧ _ :=
    StepSystem.run_iff_along
      (fun orderly performed => Orderly.step orderly performed)
      (fun _ performed => step_returnsClear_iff performed)
      (Orderly.create conn_key addresses) reached
  have trusted := returnsTrusted_of_run reached
  have initially :
      (TcpServer.create conn_key addresses).ReturnsClear :=
    nofun
  rw [and_iff_right initially] at exactly
  constructor
  · rintro ⟨properly, _⟩
    apply exactly.mp
    intro result member
    exact (properly result member).imp And.left And.left
  · intro rejected
    refine ⟨?_, fun ended => ended_of_run rejected reached ended⟩
    have clear := exactly.mpr rejected
    intro result member
    rcases trusted.2 result member with stopped | authentic
    · exact Or.inl stopped
    · have positive : result.value ≠ -1 := by
        rw [authentic.1]
        omega
      exact Or.inr
        ⟨(clear result member).resolve_left positive, authentic⟩

/-- The client breaks the connection inside the padding of a frame. -/
def cutInPadding : List TcpServerEvent :=
  connects 0 1 ++
    [.resume,
      .arrive ((clientFrame 2).take Size),
      .resume,
      .arrive (((clientFrame 2).drop Size).take fromClient.length),
      .fail .eof,
      .resume]

theorem cutInPadding_endsReceiveLoop :
    ∃ state,
      StepSystem.run (TcpServer.step Aead.checksumAead) exampleStart
          cutInPadding =
        some state ∧
      ¬ ReturnsProperly Aead.checksumAead (AES256GCM.keyOf [49])
        state ∧
      state.receiveLoop = .ended ∧
      state.connection.stopped = false := by
  have performed :
      (StepSystem.run (TcpServer.step Aead.checksumAead) exampleStart
          cutInPadding).map
            (fun state =>
              (state.packets, state.receiveLoop,
                state.connection.stopped)) =
        some ([⟨20, some .eof, fromClient⟩], .ended, false) := by
    decide +kernel
  obtain ⟨state, reached, shape⟩ :=
    Option.map_eq_some_iff.mp performed
  simp only [Prod.mk.injEq] at shape
  refine ⟨state, reached, ?_, shape.2⟩
  intro properly
  rcases properly ⟨20, some .eof, fromClient⟩ (by simp [shape.1]) with
      ⟨minus, _⟩ | ⟨clear, _⟩
  · simp at minus
  · simp at clear

theorem returns_properly_iff_cutInPadding :
    ∃ state,
      StepSystem.run (TcpServer.step Aead.checksumAead) exampleStart
          cutInPadding =
        some state ∧
      ((ReturnsProperly Aead.checksumAead (AES256GCM.keyOf [49]) state ∧
        (state.receiveLoop = .ended →
          state.connection.stopped = true ∨
            .tunWritten true ∈ cutInPadding)) ↔
        StepSystem.Along (TcpServer.step Aead.checksumAead)
          (fun state event =>
            state.failedReadRejected Aead.checksumAead event = true)
          exampleStart cutInPadding) := by
  have performed :
      (StepSystem.run (TcpServer.step Aead.checksumAead) exampleStart
        cutInPadding).isSome := by
    decide +kernel
  obtain ⟨state, reached⟩ := Option.isSome_iff_exists.mp performed
  exact ⟨state, reached,
    returns_properly_iff Aead.checksumAead [49] Server.exampleServer
      cutInPadding state reached⟩

end

end TcpServer

end Dsvpn
