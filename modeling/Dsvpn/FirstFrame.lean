import Dsvpn.SelectingFrame

namespace Dsvpn

open ProtocolHeader

/-!
# A client's frames from the first on

The stream of the only client can always be read to its end.  Every packet
behind the first is then returned, once and in order; the payload of the
first frame is not.
-/

namespace TcpServer

section

variable
    {aead : Aead 16}
    {key : List UInt8}
    {frames : List WireFrame}
    {past : List UInt8}
    {self next : TcpServer}

/-- What is due before the server waits for more bytes. -/
def startDue (self : TcpServer) : Nat :=
  if self.accepted = 0 then
    if self.acceptor = .waiting then 4 else 3
  else if self.connection.selected then
    self.receiveLoop.phase.due
  else
    (self.tryReceive 0).phase.due

/-- Bytes to receive, and what is due. -/
def startWork
    (frames : List WireFrame)
    (past : List UInt8)
    (self : TcpServer) : Nat :=
  3 * ((wireBytes frames).length - past.length) + self.startDue

theorem startDue_handshake
    (accepted : self.accepted = 1)
    (unselected : self.connection.selected = false) :
    self.startDue = (self.tryReceive 0).phase.due := by
  simp [startDue, accepted, unselected]

theorem startDue_selected
    (accepted : self.accepted = 1)
    (selected : self.connection.selected = true) :
    self.startDue = self.receiveLoop.phase.due := by
  simp [startDue, accepted, selected]

/-- Some event brings the server closer to the end of the stream. -/
def StartProgresses
    (aead : Aead 16)
    (frames : List WireFrame)
    (past : List UInt8)
    (self : TcpServer) : Prop :=
  StepSystem.ProgressesAlong (TcpServer.step aead)
    (fun server event => server.onlyConnection event = true)
    TcpServerEvent.clientBytes (wireBytes frames) (startWork frames)
    past self

/-- A step that brings no bytes, but leaves less due. -/
theorem startProgresses_silently
    {event : TcpServerEvent}
    (running : self.fault = none)
    (transition : Transition aead self event next)
    (sofar : past <+: wireBytes frames)
    (allowed : self.onlyConnection event = true)
    (silent : event.clientBytes = [])
    (less : next.startDue < self.startDue) :
    StartProgresses aead frames past self := by
  refine ⟨event, next, allowed, ?_,
    step_of_transition running transition, ?_⟩
  · simpa [silent] using sofar
  · simp only [startWork, silent, List.append_nil]
    omega

/-- The next byte arrives for the handshake. -/
theorem Unselected.arriveProgresses
    (unselected : Unselected key frames past self)
    (accepted : self.accepted = 1)
    {byte : UInt8}
    (whole : past ++ [byte] <+: wireBytes frames)
    {pc : TryReceivePc}
    {buffer : PacketBuffer}
    (transition :
      Transition aead self (.arriveTry 0 [byte])
        (TcpServer.setTryReceive 0 pc (self.setBuffer buffer))) :
    StartProgresses aead frames past self := by
  refine ⟨.arriveTry 0 [byte], _, rfl, whole,
    step_of_transition unselected.noFault transition, ?_⟩
  have due := pc.phase.due_le
  have length := whole.length_le
  have isDue :
      (TcpServer.setTryReceive 0 pc (self.setBuffer buffer)).startDue =
        pc.phase.due := by
    rw [startDue_handshake (by exact accepted)
      (by exact unselected.unselected)]
    simp [TcpServer.setTryReceive]
  simp only [startWork, isDue, TcpServerEvent.clientBytes,
    List.length_append, List.length_singleton] at length ⊢
  omega

/-- As long as something is due before the selection, it can happen. -/
theorem Unselected.progresses
    (correct : aead.Correct)
    (intact :
      ∀ frame ∈ frames,
        frame.HeaderIntact aead key ∧ frame.PayloadIntact aead key)
    (unselected : Unselected key frames past self)
    (sofar : past <+: wireBytes frames)
    (unfinished : ¬ (past = wireBytes frames ∧ self.Settled)) :
    StartProgresses aead frames past self := by
  have headers :
      ∀ frame ∈ frames, frame.HeaderIntact aead key :=
    fun frame member => (intact frame member).1
  have running := unselected.noFault
  rcases unselected.stage with
      ⟨none, notEnded, _⟩ | ⟨accepted, _, _, active⟩
  · cases acceptor : self.acceptor with
    | waiting =>
        refine startProgresses_silently running (.incoming acceptor)
          sofar rfl rfl ?_
        simp [startDue, none, acceptor]
    | connected =>
        refine startProgresses_silently running (.resumeAccept acceptor)
          sofar (by simp [onlyConnection, none]) rfl ?_
        simp [startDue, none, acceptor, TcpServer.resumeAccept,
          unselected.unselected, TryReceivePc.phase, ReadPhase.due,
          ReadOp.start]
    | ended => exact (notEnded acceptor).elim
  · have due := startDue_handshake accepted unselected.unselected
    have inStream := unselected.inStream
    cases reading : self.tryReceive 0 with
    | notStarted => exact (active (by rw [reading]; rfl)).elim
    | finished => exact (active (by rw [reading]; rfl)).elim
    | readHeader op =>
        rw [reading] at inStream due
        have header : HeaderRead _ op frames := inStream.reading
        cases outcome : op.outcome with
        | none =>
            rcases next_byte sofar with all | ⟨byte, whole⟩
            · refine (unfinished ⟨all, ?_, ?_⟩).elim
              · rw [reading]
                exact outcome
              · rw [unselected.waiting]
                trivial
            · have accepts := header.filling.accepts_one outcome byte
              have stored := (inStream.receiveHeader accepts whole).1
              exact unselected.arriveProgresses accepted whole
                (.arriveTryHeader reading accepts
                  (Buffer.store?_eq_some_iff.mp stored).1)
        | some error =>
            obtain ⟨after, length, positive, opened⟩ :=
              unselected.resumeTryHeader correct headers reading outcome
            refine startProgresses_silently running
              (.resumeTryHeader reading outcome) sofar rfl rfl ?_
            obtain ⟨_, stillAccepted, _⟩ :=
              after.active (by rw [opened]; simp [TryReceivePc.phase])
            rw [startDue_handshake stillAccepted after.unselected,
              opened, due]
            simp [TryReceivePc.phase, ReadPhase.due, ReadOp.start,
              outcome]
    | readPayload op =>
        rw [reading] at inStream due
        obtain ⟨frame, later, _, payload⟩ := inStream.reading
        cases outcome : op.outcome with
        | none =>
            rcases next_byte sofar with all | ⟨byte, whole⟩
            · refine (unfinished ⟨all, ?_, ?_⟩).elim
              · rw [reading]
                exact outcome
              · rw [unselected.waiting]
                trivial
            · have accepts := payload.filling.accepts_one outcome byte
              have stored :=
                (inStream.receivePayload
                  (fun frame member => (headers frame member).fits)
                  accepts whole).1
              exact unselected.arriveProgresses accepted whole
                (.arriveTryPayload reading accepts
                  (Buffer.store?_eq_some_iff.mp stored).1)
        | some error =>
            obtain ⟨_, selected, between⟩ :=
              unselected.resumeTryPayload correct intact reading outcome
            have transition :
                Transition aead self (.resumeTry 0)
                  (self.resumeTryPayload aead 0 op.got error) :=
              .resumeTryPayload reading outcome
            have other : TcpServerEvent.resumeTry 0 ≠ .resumeAccept := by
              intro same
              cases same
            refine startProgresses_silently running transition sofar rfl
              rfl ?_
            have stillAccepted :=
              step_accepted other
                (step_of_transition running transition)
            rw [startDue_selected (stillAccepted.trans accepted) selected,
              between, due]
            simp [TryReceivePc.phase, ReadPhase.due, outcome]

/-- The events of a served connection are allowed. -/
theorem Serves.onlyConnection
    {owner : SocketId}
    {event : TcpServerEvent}
    (serves : self.Serves key owner)
    (undisturbed : event.undisturbed = true)
    (performed : step aead self event = some next) :
    self.onlyConnection event = true := by
  obtain ⟨_, transition⟩ := step_transition performed
  cases transition with
  | resumeAccept _ => cases undisturbed
  | disconnect _ => exact serves.selected
  | @failTryHeader socket op _ reading =>
      exact ((serves.alone socket op).1 reading).elim
  | @failTryPayload socket op _ reading =>
      exact ((serves.alone socket op).2 reading).elim
  | _ => exact undisturbed

/-- Until everything has arrived and was handed over, something can happen. -/
theorem Starts.progresses
    (correct : aead.Correct)
    (intact :
      ∀ frame ∈ frames,
        frame.HeaderIntact aead key ∧ frame.PayloadIntact aead key)
    (starts : Starts aead key frames past self)
    (sofar : past <+: wireBytes frames)
    (unfinished : ¬ (past = wireBytes frames ∧ self.Settled)) :
    StartProgresses aead frames past self := by
  cases starts with
  | unselected unselected =>
      exact unselected.progresses correct intact sofar unfinished
  | served first later rest split isPast accepted delivers =>
      subst split isPast
      have behind (frame : WireFrame) (member : frame ∈ later) :=
        intact frame (List.mem_cons_of_mem first member)
      have sofarRest : rest <+: wireBytes later := by
        rw [wireBytes_cons, List.prefix_append_right_inj] at sofar
        exact sofar
      have unfinishedRest :
          ¬ (rest = wireBytes later ∧
            self.receiveLoop.phase.Quiet) := by
        rintro ⟨rfl, quiet⟩
        refine unfinished ⟨(wireBytes_cons first later).symm, ?_, quiet⟩
        rw [phase_eq_between fun op => delivers.serves.alone 0 op]
        trivial
      obtain ⟨event, next, undisturbed, wholeRest, performed, less⟩ :=
        delivers.progresses correct
          (fun frame member => (behind frame member).1)
          (fun frame member altered =>
            (altered (behind frame member).2).elim)
          sofarRest unfinishedRest
      have bytes := delivers.serves.clientBytes_eq performed
      have nextServes :=
        (delivers.step correct
          (fun frame member => (behind frame member).1)
          (fun frame member altered =>
            (altered (behind frame member).2).elim)
          undisturbed wholeRest performed).serves
      have allowed := delivers.serves.onlyConnection undisturbed performed
      obtain ⟨_, other⟩ := onlyConnection_undisturbed allowed accepted
      have nextAccepted := (step_accepted other performed).trans accepted
      refine ⟨event, next, allowed, ?_, performed, ?_⟩
      · rw [bytes, wireBytes_cons, List.append_assoc,
          List.prefix_append_right_inj]
        exact wholeRest
      · simp only [startWork,
          startDue_selected nextAccepted nextServes.selected,
          startDue_selected accepted delivers.serves.selected, bytes,
          wireBytes_cons, List.length_append]
        simp only [workLeft, List.length_append] at less
        omega

theorem create_unselected
    (conn_key : List UInt8)
    (addresses : Server)
    (frames : List WireFrame) :
    Unselected (AES256GCM.keyOf conn_key) frames []
      (create conn_key addresses) where
  noFault := rfl
  sameKey := rfl
  acceptorOpen := rfl
  unselected := rfl
  noSocket := rfl
  waiting := rfl
  noWrite := rfl
  silent := rfl
  strangers := fun _ _ => rfl
  stage := Or.inl ⟨rfl, nofun, rfl⟩
  inStream :=
    { consumed := by simp [create, TryReceivePc.phase, ReadPhase.held,
        wireBytes]
      reading := trivial }

/-- What has been returned belongs to frames behind the first, in order. -/
theorem Starts.packets_prefix
    (starts : Starts aead key frames past self) :
    ∃ complete,
      complete <+: frames.tail ∧
        self.packets = delivered aead key complete := by
  cases starts with
  | unselected unselected =>
      exact ⟨[], List.nil_prefix, unselected.silent⟩
  | served first later rest split _ _ delivers =>
      subst split
      obtain ⟨complete, remaining, rfl, reads⟩ := delivers.position
      exact ⟨complete, List.prefix_append _ _, by
        simpa using reads.returned⟩

/-- When everything was handed over, every frame behind the first was read. -/
theorem Starts.packets_eq
    (intact : ∀ frame ∈ frames, frame.HeaderIntact aead key)
    (starts : Starts aead key frames (wireBytes frames) self)
    (settled : self.Settled) :
    self.packets = delivered aead key frames.tail := by
  cases starts with
  | unselected unselected =>
      obtain rfl :=
        unselected.inStream.remaining_eq_nil intact rfl settled.1
      exact unselected.silent
  | served first later rest split isPast _ delivers =>
      subst split
      rw [wireBytes_cons, List.append_cancel_left_eq] at isPast
      subst isPast
      have all :=
        delivers.packets_eq
          (fun frame member =>
            intact frame (List.mem_cons_of_mem first member))
          settled.2
      simpa using all

theorem Starts.running
    (starts : Starts aead key frames past self) :
    self.fault = none := by
  cases starts with
  | unselected unselected => exact unselected.noFault
  | served _ _ _ _ _ _ delivers => exact delivers.serves.noFault

end

/--
After a run that was given a part of the stream: what has been returned is a
prefix of the packets; the run can be continued until the whole stream has
arrived and was handed over; and then all of them have been returned, in order.
-/
def ReturnsInOrder
    (aead : Aead 16)
    (packets : List OutgoingPacket)
    (stream : List UInt8)
    (past : List UInt8)
    (final : TcpServer) : Prop :=
  final.fault = none ∧
    (∃ returned,
      returned <+: packets ∧
        final.packets = returned.map OutgoingPacket.delivery) ∧
    (∃ events finished,
      StepSystem.Along (step aead)
          (fun server event => server.onlyConnection event = true)
          final events ∧
        StepSystem.run (step aead) final events = some finished ∧
        past ++ events.flatMap TcpServerEvent.clientBytes = stream ∧
        finished.Settled) ∧
    (past = stream →
      final.Settled →
      final.packets = packets.map OutgoingPacket.delivery)

/--
Of what the client sends on the only connection of a server, these packets are
returned by `ReceiveFrom` in every run.
-/
def ReceivesInOrder
    (aead : Aead 16)
    (conn_key : List UInt8)
    (addresses : Server)
    (client : TCPConnection)
    (sent expected : List OutgoingPacket) : Prop :=
  ∃ after stream,
    client.sendAll aead sent = .ok (after, stream) ∧
      ∀ events final,
        StepSystem.Along (step aead)
          (fun server event => server.onlyConnection event = true)
          (create conn_key addresses) events →
        events.flatMap TcpServerEvent.clientBytes <+: stream →
        StepSystem.run (step aead) (create conn_key addresses) events =
          some final →
        final.ReturnsInOrder aead expected stream
          (events.flatMap TcpServerEvent.clientBytes)

/--
What a client sends with `Send` on the only connection of a server is
returned by `ReceiveFrom` from the second packet on.
-/
theorem packets_behind_first
    (aead : Aead 16)
    (correct : aead.Correct)
    (conn_key : List UInt8)
    (addresses : Server)
    (client : TCPConnection)
    {socket : SocketId}
    (sameKey : client.protocol.key = AES256GCM.keyOf conn_key)
    (connected : client.conn_socket = some socket)
    (packets : List OutgoingPacket)
    (sendable : ∀ packet ∈ packets, packet.Sendable) :
    ReceivesInOrder aead conn_key addresses client packets
      packets.tail := by
  obtain ⟨after, sent⟩ :=
    client.sendAll_eq aead sendable connected
  rw [sameKey] at sent
  refine ⟨after, _, sent, ?_⟩
  intro events final conditions whole reached
  let key := AES256GCM.keyOf conn_key
  let frames := sentFrames aead key packets
  have intact :
      ∀ frame ∈ frames,
        frame.HeaderIntact aead key ∧ frame.PayloadIntact aead key :=
    sentFrames_intact sendable
  have tail : frames.tail = sentFrames aead key packets.tail := by
    simp only [frames, sentFrames, List.map_tail]
  have starts :
      Starts aead key frames
        ([] ++ events.flatMap TcpServerEvent.clientBytes) final :=
    StepSystem.run_invariant_observing
      (fun starts allowed whole performed =>
        starts.step correct intact allowed whole performed)
      (.unselected (create_unselected conn_key addresses frames))
      conditions whole reached
  rw [List.nil_append] at starts
  refine ⟨starts.running, ?_, ?_, ?_⟩
  · obtain ⟨complete, isPrefix, returned⟩ := starts.packets_prefix
    rw [tail] at isPrefix
    have part :
        complete =
          sentFrames aead key (packets.tail.take complete.length) := by
      rw [sentFrames, List.map_take]
      exact List.prefix_iff_eq_take.mp isPrefix
    refine ⟨packets.tail.take complete.length, List.take_prefix _ _, ?_⟩
    rw [returned, part, delivered_sentFrames, ← part]
  · obtain ⟨more, finished, allowed, _, run, all, settled⟩ :=
      StepSystem.exists_run_along_of_progress (startWork frames)
        (fun starts allowed whole performed =>
          starts.step correct intact allowed whole performed)
        (fun starts sofar unfinished =>
          starts.progresses correct intact sofar unfinished)
        starts whole
    exact ⟨more, finished, allowed, run, all, settled⟩
  · intro all settled
    rw [all] at starts
    rw [starts.packets_eq (fun frame member => (intact frame member).1)
      settled, tail, delivered_sentFrames]

/-- Lists that are both received in order hold the same packets. -/
theorem ReceivesInOrder.unique
    {aead : Aead 16}
    {conn_key : List UInt8}
    {addresses : Server}
    {client : TCPConnection}
    {sent first second : List OutgoingPacket}
    (receivesFirst :
      ReceivesInOrder aead conn_key addresses client sent first)
    (receivesSecond :
      ReceivesInOrder aead conn_key addresses client sent second) :
    first.map OutgoingPacket.delivery =
      second.map OutgoingPacket.delivery := by
  obtain ⟨after, stream, sends, receives⟩ := receivesFirst
  obtain ⟨_, _, sendsAgain, receivesAlso⟩ := receivesSecond
  rw [sends] at sendsAgain
  obtain ⟨rfl, rfl⟩ := Prod.mk.inj (Except.ok.inj sendsAgain)
  -- the run that was given nothing can be continued to its end
  obtain ⟨_, _, ⟨events, final, conditions, reached, all, settled⟩, _⟩ :=
    receives [] (create conn_key addresses) trivial List.nil_prefix rfl
  rw [List.flatMap_nil, List.nil_append] at all
  have whole : events.flatMap TcpServerEvent.clientBytes <+: stream :=
    all ▸ List.prefix_rfl
  obtain ⟨_, _, _, returned⟩ :=
    receives events final conditions whole reached
  obtain ⟨_, _, _, alsoReturned⟩ :=
    receivesAlso events final conditions whole reached
  rw [← returned all settled, alsoReturned all settled]

/-- The packets are returned from the first one on only if there is none. -/
theorem packets_from_first_iff
    (aead : Aead 16)
    (correct : aead.Correct)
    (conn_key : List UInt8)
    (addresses : Server)
    (client : TCPConnection)
    {socket : SocketId}
    (sameKey : client.protocol.key = AES256GCM.keyOf conn_key)
    (connected : client.conn_socket = some socket)
    (packets : List OutgoingPacket)
    (sendable : ∀ packet ∈ packets, packet.Sendable) :
    ReceivesInOrder aead conn_key addresses client packets packets ↔
      packets = [] := by
  have behindFirst :=
    packets_behind_first aead correct conn_key addresses client sameKey
      connected packets sendable
  constructor
  · intro receives
    have same := congrArg List.length (receives.unique behindFirst)
    cases packets with
    | nil => rfl
    | cons first rest =>
        simp at same
  · rintro rfl
    exact behindFirst

def exampleClient : TCPConnection :=
  { TCPConnection.create [49] with conn_socket := some 0 }

def twoPackets : List OutgoingPacket :=
  [⟨fromClient, SendDraw.constant 1⟩, ⟨fromClient, SendDraw.constant 2⟩]

/-- Both frames arrive, and everything is handed over. -/
def readsTwoFrames : List TcpServerEvent :=
  connects 0 1 ++
    [.resume,
      .arrive ((clientFrame 2).take Size),
      .resume,
      .arrive ((clientFrame 2).drop Size),
      .resume,
      .tunWritten false]

/-- The first packet has only selected the connection. -/
theorem firstPacket_dropped :
    (exampleClient.sendAll Aead.checksumAead
        twoPackets).toOption.map Prod.snd =
      some (readsTwoFrames.flatMap TcpServerEvent.clientBytes) ∧
    StepSystem.Along (step Aead.checksumAead)
      (fun server event => server.onlyConnection event = true)
      exampleStart readsTwoFrames ∧
    ∃ final,
      StepSystem.run (step Aead.checksumAead) exampleStart
          readsTwoFrames =
        some final ∧
      final.Settled ∧
      final.packets = [⟨20, none, fromClient⟩] ∧
      final.packets ≠ twoPackets.map OutgoingPacket.delivery := by
  have performed :
      (StepSystem.run (step Aead.checksumAead) exampleStart
          readsTwoFrames).map
            (fun final =>
              (final.tryReceive 0, final.receiveLoop, final.packets)) =
        some
          (.finished, .readHeader 0 (ReadOp.start 0 Size),
            [⟨20, none, fromClient⟩]) := by
    decide +kernel
  obtain ⟨final, reached, shape⟩ :=
    Option.map_eq_some_iff.mp performed
  simp only [Prod.mk.injEq] at shape
  obtain ⟨finished, reading, packets⟩ := shape
  refine ⟨by decide +kernel, by decide +kernel, final, reached,
    ⟨?_, ?_⟩, packets, ?_⟩
  · rw [finished]
    trivial
  · rw [reading]
    rfl
  · rw [packets]
    intro same
    cases congrArg List.length same

theorem packets_from_first_iff_twoPackets :
    ¬ ReceivesInOrder Aead.checksumAead [49] Server.exampleServer
      exampleClient twoPackets twoPackets := by
  have connected : exampleClient.conn_socket = some 0 := rfl
  have sendable : ∀ packet ∈ twoPackets, packet.Sendable := by
    intro packet member
    simp only [twoPackets, List.mem_cons, List.not_mem_nil, or_false]
      at member
    rcases member with rfl | rfl
    · exact ⟨by decide, by decide⟩
    · exact ⟨by decide, by decide⟩
  rw [packets_from_first_iff Aead.checksumAead Aead.checksumAead_correct
    [49] Server.exampleServer exampleClient rfl connected twoPackets
    sendable]
  exact List.cons_ne_nil _ _

end TcpServer

end Dsvpn
