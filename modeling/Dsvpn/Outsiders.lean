import Dsvpn.Outside

namespace Dsvpn

open ProtocolHeader

/-!
# Other connections beside the selected one

A run is compared with the run from which the events of all connections
still in `tryReceive` were removed: as long as no piece of theirs changes a
byte that `ReceiveFrom` still needs, and none of them finds a header in the
buffer that authenticates, `ReceiveFrom` does the same in both.
-/

namespace TcpServer

section

variable
    {aead : Aead 16}
    {settled : SocketId → Bool}
    {self next : TcpServer}
    {outside : Outside}

theorem Mirrors.setConnection
    (mirrors : Mirrors settled self outside)
    {connection : TCPConnection}
    (sameCurrent :
      connection.conn_socket = self.connection.conn_socket)
    (sameWaiting :
      connection.replace_socket = self.connection.replace_socket)
    (sameBuffer :
      connection.conn_recv_buffer = self.connection.conn_recv_buffer) :
    Mirrors settled { self with connection := connection } outside :=
  { mirrors with
    currentSettled := fun socket current =>
      mirrors.currentSettled socket (sameCurrent.symm.trans current)
    waitingSettled := fun socket waiting =>
      mirrors.waitingSettled socket (sameWaiting.symm.trans waiting)
    sameBytes := fun index visible => by
      rw [mirrors.sameBytes index visible, ← sameBuffer] }

/-- The TUN loop does not look at the receive buffer. -/
theorem Mirrors.sendTo
    (mirrors : Mirrors settled self outside)
    (packet : List UInt8)
    (draw : SendDraw) :
    MirrorsAfter settled (self.sendTo aead packet draw)
      ((self.withOutside outside).sendTo aead packet draw) := by
  have mirroredRead :=
    self.connection.readTun_conn_recv_buffer outside.buffer packet
  unfold TcpServer.sendTo
  cases staged : self.connection.readTun packet with
  | none =>
      rw [staged] at mirroredRead
      have mirrored :
          (self.withOutside outside).connection.readTun packet = none :=
        mirroredRead
      simp only [mirrored]
      exact ⟨outside, rfl, { mirrors with }⟩
  | some ready =>
      rw [staged] at mirroredRead
      have mirrored :
          (self.withOutside outside).connection.readTun packet =
            some { ready with conn_recv_buffer := outside.buffer } :=
        mirroredRead
      have untouched := TCPConnection.readTun_untouched staged
      have mirrorsReady :
          Mirrors settled { self with connection := ready } outside := by
        simp only [TCPConnection.readTun, Option.bind_eq_bind,
          Option.bind_eq_some_iff, Option.some.injEq] at staged
        obtain ⟨members, _, rfl⟩ := staged
        exact mirrors.setConnection rfl rfl untouched
      simp only [mirrored, withOutside_addresses]
      by_cases forwards :
          self.addresses.forwardsToClient ready.tun_recv_buffer = true
      · simp only [forwards, if_true]
        have mirroredSend :=
          ready.SendTo_conn_recv_buffer aead outside.buffer
            packet.length draw
        cases sends : ready.SendTo aead packet.length draw with
        | error fault =>
            rw [sends] at mirroredSend
            simp only [mirroredSend]
            exact ⟨outside, rfl, { mirrors with }⟩
        | ok output =>
            obtain ⟨result, writes⟩ := output
            rw [sends] at mirroredSend
            have same := TCPConnection.SendTo_untouched sends
            have mirrorsSent :
                Mirrors settled { self with connection := result }
                  outside := by
              obtain ⟨⟨members, rfl⟩, _⟩ :=
                TCPConnection.SendTo_members sends
              exact mirrorsReady.setConnection rfl rfl same
            simp only [mirroredSend]
            cases writes with
            | none => exact ⟨outside, rfl, mirrorsSent⟩
            | some write =>
                obtain ⟨socket, frame⟩ := write
                have current := TCPConnection.SendTo_socket sends
                have sameSocket :=
                  mirrors.sameSocket socket
                    (mirrorsReady.currentSettled socket current)
                refine ⟨outside, ?_, { mirrorsSent with }⟩
                simp only [Except.map, withOutside_socket, sameSocket]
                rfl
      · simp only [forwards]
        exact ⟨outside, rfl, mirrorsReady⟩

theorem Mirrors.writeSome
    (mirrors : Mirrors settled self outside)
    (socket : SocketId)
    (frame : List UInt8)
    (sent length : Nat) :
    MirrorsAfter settled (self.writeSome socket frame sent length)
      ((self.withOutside outside).writeSome socket frame
        sent length) := by
  refine
    ⟨{ outside with
        socket :=
          Function.update outside.socket socket
            { outside.socket socket with
              written :=
                (outside.socket socket).written ++
                  (frame.drop sent).take length } }, rfl, ?_⟩
  exact
    { mirrors with
      sameSocket := fun other isSettled => by
        have same := mirrors.sameSocket other isSettled
        by_cases isTarget : other = socket
        · subst isTarget
          simp [TcpServer.writeSome, same]
        · simpa [TcpServer.writeSome, isTarget] using same }

theorem Mirrors.resumeSendTo
    (mirrors : Mirrors settled self outside)
    (socket : SocketId)
    (error : Option ErrorCode) :
    MirrorsAfter settled (self.resumeSendTo socket error)
      ((self.withOutside outside).resumeSendTo socket error) := by
  have returned : Mirrors settled { self with sendLoop := .readTun }
      outside :=
    { mirrors with }
  cases error with
  | none => exact ⟨outside, rfl, returned⟩
  | some error =>
      have failed := returned.record (.writeFailed socket)
      unfold TcpServer.resumeSendTo
      simp only [Option.isSome_some, if_true]
      have same :
          TcpServer.record
              { self.withOutside outside with sendLoop := .readTun }
              (.writeFailed socket) =
            (TcpServer.record { self with sendLoop := .readTun }
              (.writeFailed socket)).withOutside outside :=
        rfl
      rw [same]
      generalize
        TcpServer.record { self with sendLoop := .readTun }
          (.writeFailed socket) = state at failed ⊢
      by_cases stopped : state.connection.stopped = true
      · have mirrored :
            (state.withOutside outside).connection.stopped = true :=
          stopped
        rw [if_pos stopped, if_pos mirrored]
        exact ⟨outside, rfl, failed⟩
      · have mirrored :
            ¬ (state.withOutside outside).connection.stopped = true :=
          stopped
        rw [if_neg stopped, if_neg mirrored, withOutside_conn_socket]
        cases state.connection.conn_socket with
        | none => exact ⟨outside, rfl, { failed with }⟩
        | some current =>
            obtain ⟨cancelled, cancelledEq, mirrorsCancelled⟩ :=
              failed.cancel current
            simp only [cancelledEq]
            have deselected :=
              mirrorsCancelled.record (.deselected current)
            exact ⟨cancelled, rfl,
              deselected.setConnection rfl rfl rfl⟩

/-- `Close` once the acceptor is closed. -/
def closeCurrent (self : TcpServer) : TcpServer :=
  if
      0 < self.connection.async_tasks_running ∧
        self.connection.selected then
    match self.connection.conn_socket with
    | none =>
        self.setFault .nullDereference
    | some socket =>
        let closed := self.closeSocket socket
        { closed with
          connection :=
            { closed.connection with
              conn_socket := none
              selected := false
              stopped := true } }
  else
    self

theorem Mirrors.closeCurrent
    (mirrors : Mirrors settled self outside) :
    MirrorsAfter settled self.closeCurrent
      (self.withOutside outside).closeCurrent := by
  unfold TcpServer.closeCurrent
  by_cases open_ :
      0 < self.connection.async_tasks_running ∧
        self.connection.selected = true
  · have mirrored :
        0 < (self.withOutside outside).connection.async_tasks_running ∧
          (self.withOutside outside).connection.selected = true :=
      open_
    rw [if_pos open_, if_pos mirrored, withOutside_conn_socket]
    cases self.connection.conn_socket with
    | none => exact ⟨outside, rfl, { mirrors with }⟩
    | some socket =>
        obtain ⟨closed, closedEq, mirrorsClosed⟩ :=
          mirrors.closeSocket socket
        simp only [closedEq]
        exact ⟨closed, rfl,
          { mirrorsClosed with currentSettled := nofun }⟩
  · have mirrored :
        ¬ (0 < (self.withOutside
            outside).connection.async_tasks_running ∧
          (self.withOutside outside).connection.selected = true) :=
      open_
    rw [if_neg open_, if_neg mirrored]
    exact ⟨outside, rfl, mirrors⟩

theorem Mirrors.close
    (mirrors : Mirrors settled self outside) :
    MirrorsAfter settled self.close
      (self.withOutside outside).close := by
  let refusing (server : TcpServer) : TcpServer :=
    { server with
      connection := { server.connection with tcp_acceptor_open := false }
      acceptor :=
        if server.acceptor = .waiting then .ended else server.acceptor }
  have refuses :
      Mirrors settled (refusing self)
        { outside with
          acceptor :=
            if outside.acceptor = .waiting then
              .ended
            else
              outside.acceptor } :=
    { mirrors with }
  exact refuses.closeCurrent

/-- A step that is not an outsider's happens in the mirror image too. -/
theorem Mirrors.visible
    {event : TcpServerEvent}
    (orderly : self.Orderly)
    (mirrors : Mirrors settled self outside)
    (own : event.ofOutsiders settled = false)
    (transition : Transition aead self event next) :
    ∃ mirrored,
      Transition aead (self.withOutside outside) event mirrored ∧
        MirrorsAfter settled next mirrored := by
  cases transition with
  | incoming _ => cases own
  | resumeAccept _ => cases own
  | disconnect socket =>
      refine ⟨_, .disconnect socket,
        { outside with
          socket :=
            Function.update outside.socket socket
              { outside.socket socket with connected := false } },
        rfl, ?_⟩
      exact
        { mirrors with
          sameSocket := fun other isSettled => by
            have same := mirrors.sameSocket other isSettled
            by_cases isTarget : other = socket
            · subst isTarget
              simp [same]
            · simpa [isTarget] using same }
  | @arriveTryHeader socket op piece reading _ _ =>
      have isSettled : settled socket = true := by
        simpa [TcpServerEvent.ofOutsiders] using own
      exact (mirrors.settledIdle isSettled reading).elim
  | arriveTryPayload reading _ _ =>
      exact (mirrors.noPayload _ _ reading).elim
  | @arriveTryOutside socket op piece reading _ _ =>
      have isSettled : settled socket = true := by
        simpa [TcpServerEvent.ofOutsiders] using own
      rcases reading with reading | reading
      · exact (mirrors.settledIdle isSettled reading).elim
      · exact (mirrors.noPayload _ _ reading).elim
  | @failTryHeader socket op error reading =>
      have isSettled : settled socket = true := by
        simpa [TcpServerEvent.ofOutsiders] using own
      exact (mirrors.settledIdle isSettled reading).elim
  | failTryPayload _ reading =>
      exact (mirrors.noPayload _ _ reading).elim
  | @resumeTryHeader socket op error reading _ =>
      have isSettled : settled socket = true := by
        simpa [TcpServerEvent.ofOutsiders] using own
      exact (mirrors.settledIdle isSettled reading).elim
  | resumeTryPayload reading _ =>
      exact (mirrors.noPayload _ _ reading).elim
  | wake waiting => exact ⟨_, .wake waiting, mirrors.receiveFrom⟩
  | @arriveHeader socket op piece reading accepts inside =>
      refine ⟨_, .arriveHeader reading accepts inside,
        { outside with
          buffer :=
            outside.buffer.overwrite (op.offset + op.got) piece },
        rfl, { mirrors with sameBytes := ?_ }⟩
      have offset := (orderly.reading.header socket op reading).offset
      refine (mirrors.sameBytes.overwrite _ piece).mono ?_
      rintro index (behind | needed)
      · exact Or.inl (Or.inl behind)
      · -- the bytes received so far, or the piece
        simp only [TcpServer.setReceiveLoop, ReadOp.receive,
          ReceiveLoopPc.stillNeeded, decide_eq_true_eq] at needed
        rcases Nat.lt_or_ge index op.got with earlier | now
        · refine Or.inl (Or.inr ?_)
          rw [reading]
          exact decide_eq_true earlier
        · exact Or.inr (by omega)
  | @arrivePayload socket op piece reading accepts inside =>
      refine ⟨_, .arrivePayload reading accepts inside,
        { outside with
          buffer :=
            outside.buffer.overwrite (op.offset + op.got) piece },
        rfl, { mirrors with sameBytes := ?_ }⟩
      refine (mirrors.sameBytes.overwrite _ piece).mono ?_
      rintro index (behind | needed)
      · exact Or.inl (Or.inl behind)
      · refine Or.inl (Or.inr ?_)
        rw [reading]
        exact needed
  | arriveOutside reading accepts outside =>
      exact ⟨_, .arriveOutside reading accepts outside,
        _, rfl, { mirrors with }⟩
  | @failHeader socket op error reading =>
      refine ⟨_, .failHeader error reading, outside, rfl,
        { mirrors with sameBytes := mirrors.sameBytes.mono ?_ }⟩
      rintro index (behind | needed)
      · exact Or.inl behind
      · refine Or.inr ?_
        rw [reading]
        simpa [TcpServer.setReceiveLoop, ReceiveLoopPc.stillNeeded,
          ReadOp.fail_got] using needed
  | @failPayload socket op error reading =>
      refine ⟨_, .failPayload error reading, outside, rfl,
        { mirrors with sameBytes := mirrors.sameBytes.mono ?_ }⟩
      rintro index (behind | needed)
      · exact Or.inl behind
      · refine Or.inr ?_
        rw [reading]
        exact needed
  | resumeHeader reading completed =>
      exact ⟨_, .resumeHeader reading completed,
        mirrors.resumeHeader orderly reading completed⟩
  | resumePayload reading completed =>
      exact ⟨_, .resumePayload reading completed,
        mirrors.resumePayload reading _ _⟩
  | tunWritten failed writing =>
      refine ⟨_, .tunWritten failed writing, ?_⟩
      cases failed with
      | false => exact mirrors.receiveFrom
      | true => exact ⟨_, rfl, mirrors.endReceiveLoop⟩
  | sendTo packet draw reading =>
      exact ⟨_, .sendTo packet draw reading,
        mirrors.sendTo packet draw⟩
  | writeSome writing positive room =>
      exact ⟨_, .writeSome writing positive room,
        mirrors.writeSome _ _ _ _⟩
  | writeError error writing =>
      exact ⟨_, .writeError error writing, _, rfl, { mirrors with }⟩
  | resumeSendTo writing =>
      exact ⟨_, .resumeSendTo writing, mirrors.resumeSendTo _ _⟩
  | close => exact ⟨_, .close, mirrors.close⟩

/-- A connection that has not finished gives up or goes on reading. -/
theorem Mirrors.setTryReceive
    (mirrors : Mirrors settled self outside)
    {socket : SocketId}
    (notSettled : settled socket = false)
    (pc : TryReceivePc)
    (noPayload : ∀ op, pc ≠ .readPayload op) :
    Mirrors settled (setTryReceive socket pc self) outside :=
  { mirrors with
    settledFinished := fun other isSettled => by
      have different : other ≠ socket := by
        rintro rfl
        simp [notSettled] at isSettled
      simpa [TcpServer.setTryReceive, different] using
        mirrors.settledFinished other isSettled
    noPayload := fun other op reading => by
      by_cases same : other = socket
      · subst same
        exact noPayload op (by
          simpa [TcpServer.setTryReceive] using reading)
      · exact mirrors.noPayload other op (by
          simpa [TcpServer.setTryReceive, same] using reading) }

theorem Mirrors.giveUp
    (mirrors : Mirrors settled self outside)
    {socket : SocketId}
    (notSettled : settled socket = false) :
    Mirrors settled (self.giveUp socket) outside := by
  have finished := mirrors.setTryReceive notSettled .finished nofun
  refine { finished with sameSocket := fun other isSettled => ?_ }
  have different : other ≠ socket := by
    rintro rfl
    simp [notSettled] at isSettled
  simpa [TcpServer.giveUp, TcpServer.shut, different] using
    mirrors.sameSocket other isSettled

/-- A harmless piece changes nothing that `ReceiveFrom` may look at. -/
theorem Mirrors.arriveTry
    (mirrors : Mirrors settled self outside)
    {op : ReadOp}
    (header : op.ReadsHeader)
    {piece : List UInt8}
    (accepts : op.Accepts piece)
    (harmless :
      ∀ index < piece.length,
        self.receiveLoop.stillNeeded (op.got + index) = true →
        piece.getD index 0 =
          self.connection.conn_recv_buffer.get (op.got + index)) :
    Mirrors settled
      (self.setBuffer
        (self.connection.conn_recv_buffer.overwrite
          (op.offset + op.got) piece))
      outside := by
  refine { mirrors with sameBytes := fun index visible => ?_ }
  rw [mirrors.sameBytes index visible]
  simp only [setBuffer, Buffer.get_overwrite, header.offset,
    Nat.zero_add]
  split
  · rename_i written
    obtain ⟨_, starts, ends⟩ := written
    obtain ⟨_, _, room⟩ := accepts
    rw [header.want] at room
    have needed : self.receiveLoop.stillNeeded index = true :=
      visible.resolve_left (by omega)
    have unchanged := harmless (index - op.got) (by omega)
    rw [Nat.add_sub_cancel' starts] at unchanged
    exact (unchanged needed).symm
  · rfl

/-- A harmless step of an outsider leaves the mirror image as it is. -/
theorem Mirrors.hidden
    {event : TcpServerEvent}
    (orderly : self.Orderly)
    (mirrors : Mirrors settled self outside)
    (harmless : self.outsidersHarmless aead event = true)
    (others : event.ofOutsiders settled = true)
    (transition : Transition aead self event next) :
    next.withOutside outside = self.withOutside outside ∧
      Mirrors settled next outside := by
  cases transition with
  | incoming _ => exact ⟨rfl, { mirrors with }⟩
  | resumeAccept _ =>
      have different (socket : SocketId)
          (isSettled : settled socket = true) :
          socket ≠ self.accepted := by
        have finished := mirrors.settledFinished socket isSettled
        exact Nat.ne_of_lt (orderly.started socket (by simp [finished]))
      refine ⟨rfl,
        { mirrors with
          settledFinished := fun socket isSettled => ?_
          noPayload := fun socket op reading => ?_
          sameSocket := fun socket isSettled => ?_ }⟩
      · simpa [TcpServer.resumeAccept, different socket isSettled] using
          mirrors.settledFinished socket isSettled
      · by_cases same : socket = self.accepted
        · simp [TcpServer.resumeAccept, same] at reading
        · exact mirrors.noPayload socket op (by
            simpa [TcpServer.resumeAccept, same] using reading)
      · simpa [TcpServer.resumeAccept, different socket isSettled] using
          mirrors.sameSocket socket isSettled
  | disconnect socket =>
      refine ⟨rfl,
        { mirrors with sameSocket := fun other isSettled => ?_ }⟩
      have different : other ≠ socket := by
        rintro rfl
        simp [TcpServerEvent.ofOutsiders, isSettled] at others
      simpa [different] using mirrors.sameSocket other isSettled
  | @arriveTryHeader socket op piece reading accepts _ =>
      have notSettled : settled socket = false := by
        simpa [TcpServerEvent.ofOutsiders] using others
      have header := orderly.triesHeader socket op reading
      refine ⟨rfl,
        (mirrors.arriveTry header accepts ?_).setTryReceive
          notSettled _ (fun _ same => by cases same)⟩
      intro index inside needed
      simp only [outsidersHarmless, reading, List.all_eq_true,
        List.mem_range] at harmless
      simpa [needed] using harmless index inside
  | arriveTryPayload reading _ _ =>
      exact (mirrors.noPayload _ _ reading).elim
  | @arriveTryOutside socket op piece reading accepts outsideBuffer =>
      rcases reading with reading | reading
      · have header := orderly.triesHeader socket op reading
        obtain ⟨_, _, room⟩ := accepts
        rw [header.want] at room
        rw [header.offset] at outsideBuffer
        simp only [Size] at room
        omega
      · exact (mirrors.noPayload _ _ reading).elim
  | @failTryHeader socket op error reading =>
      have notSettled : settled socket = false := by
        simpa [TcpServerEvent.ofOutsiders] using others
      exact ⟨rfl,
        mirrors.setTryReceive notSettled _ (fun _ same => by cases same)⟩
  | failTryPayload _ reading =>
      exact (mirrors.noPayload _ _ reading).elim
  | @resumeTryHeader socket op error reading _ =>
      have notSettled : settled socket = false := by
        simpa [TcpServerEvent.ofOutsiders] using others
      have givesUp :
          self.resumeTryHeader aead socket op.got =
            self.giveUp socket := by
        unfold TcpServer.resumeTryHeader
        split
        · rfl
        · rename_i something
          have rejected :
              aead.decrypt self.connection.protocol.key
                  (NONCE self.connection.conn_recv_buffer)
                  (lengthFields self.connection.conn_recv_buffer)
                  (LEN_TAG self.connection.conn_recv_buffer) =
                none := by
            simpa [outsidersHarmless, reading, something] using harmless
          simp only [Protocol.DecryptHeader_reject rejected, if_true]
      rw [givesUp]
      exact ⟨rfl, mirrors.giveUp notSettled⟩
  | resumeTryPayload reading _ =>
      exact (mirrors.noPayload _ _ reading).elim
  | wake _ => cases others
  | arriveHeader _ _ _ => cases others
  | arrivePayload _ _ _ => cases others
  | arriveOutside _ _ _ => cases others
  | failHeader _ _ => cases others
  | failPayload _ _ => cases others
  | resumeHeader _ _ => cases others
  | resumePayload _ _ => cases others
  | tunWritten _ _ => cases others
  | sendTo _ _ _ => cases others
  | writeSome _ _ _ => cases others
  | writeError _ _ => cases others
  | resumeSendTo _ => cases others
  | close => cases others

/--
From any reachable state in which no other connection's header has
authenticated: in every run whose outsiders are harmless at every step,
`ReceiveFrom` returns the same packets as in the run without them.
-/
theorem packets_without_outsiders
    (aead : Aead 16)
    (conn_key : List UInt8)
    (addresses : Server)
    (established events : List TcpServerEvent)
    (start final : TcpServer)
    (reachable :
      StepSystem.run (step aead) (create conn_key addresses)
          established =
        some start)
    (unauthenticated :
      ∀ socket op, start.tryReceive socket ≠ .readPayload op)
    (harmless :
      StepSystem.Along (step aead)
        (fun state event => state.outsidersHarmless aead event = true)
        start events)
    (reached :
      StepSystem.run (step aead) start events = some final) :
    ∃ alone,
      StepSystem.run (step aead) start
          (events.filter fun event =>
            !event.ofOutsiders start.settled) =
        some alone ∧
      final.packets = alone.packets := by
  let Related (full alone : TcpServer) : Prop :=
    ∃ outside,
      alone = full.withOutside outside ∧
        full.Orderly ∧ Mirrors start.settled full outside
  have orderly := orderly_of_run reachable
  have initially : Related start start := by
    refine
      ⟨⟨start.connection.conn_recv_buffer, start.acceptor,
          start.accepted, start.socket, start.tryReceive⟩,
        rfl, orderly, ?_⟩
    exact
      { settledFinished := fun _ isSettled =>
          of_decide_eq_true isSettled
        currentSettled := fun socket current =>
          decide_eq_true (orderly.currentFinished socket current)
        waitingSettled := fun socket waiting =>
          decide_eq_true (orderly.waitingFinished socket waiting)
        noPayload := unauthenticated
        sameSocket := fun _ _ => rfl
        sameBytes := fun _ _ => rfl }
  obtain ⟨alone, aloneReached, outside, rfl, _, _⟩ :=
    StepSystem.run_without Related
      (fun event => event.ofOutsiders start.settled)
      (by
        rintro full alone event next ⟨outside, rfl, fullOrderly, mirrors⟩
          stepHarmless others performed
        obtain ⟨_, transition⟩ := step_transition performed
        obtain ⟨same, stillMirrors⟩ :=
          mirrors.hidden fullOrderly stepHarmless others transition
        exact ⟨outside, same.symm, fullOrderly.step performed,
          stillMirrors⟩)
      (by
        rintro full alone event next ⟨outside, rfl, fullOrderly, mirrors⟩
          own performed
        obtain ⟨running, transition⟩ := step_transition performed
        obtain ⟨mirrored, mirroredTransition, nextOutside, rfl,
            stillMirrors⟩ :=
          mirrors.visible fullOrderly own transition
        exact ⟨_, step_of_transition running mirroredTransition,
          nextOutside, rfl, fullOrderly.step performed, stillMirrors⟩)
      initially harmless reached
  exact ⟨_, aloneReached, rfl⟩

end

/-- Connection 0 is selected, and `ReceiveFrom` waits for its next header. -/
def oneSelected : List TcpServerEvent :=
  connects 0 1 ++ [.resume]

/-- A second connection sends three bytes between two frames, and closes. -/
def outsiderBetweenFrames : List TcpServerEvent :=
  [.incoming, .resumeAccept,
    .arriveTry 1 [7, 7, 7],
    .failTry 1 .eof,
    .resumeTry 1,
    .arrive ((clientFrame 2).take Size),
    .resume,
    .arrive ((clientFrame 2).drop Size),
    .resume]

/-- A second connection sends one byte while a payload is being read. -/
def outsiderDuringPayload : List TcpServerEvent :=
  [.arrive ((clientFrame 2).take Size),
    .resume,
    .incoming, .resumeAccept,
    .arriveTry 1 [7],
    .arrive ((clientFrame 2).drop Size),
    .resume]

theorem packets_without_outsiders_between :
    ∃ start final alone,
      StepSystem.run (step Aead.checksumAead) exampleStart oneSelected =
          some start ∧
        StepSystem.run (step Aead.checksumAead) start
            outsiderBetweenFrames =
          some final ∧
        StepSystem.run (step Aead.checksumAead) start
            (outsiderBetweenFrames.filter fun event =>
              !event.ofOutsiders start.settled) =
          some alone ∧
        final.packets = [⟨20, none, fromClient⟩] ∧
        final.packets = alone.packets := by
  have settles :
      (StepSystem.run (step Aead.checksumAead) exampleStart
        oneSelected).map (fun state =>
          (state.accepted, state.tryReceive 0)) =
        some (1, .finished) := by
    decide +kernel
  obtain ⟨start, reachable, shape⟩ :=
    Option.map_eq_some_iff.mp settles
  obtain ⟨accepted, finished⟩ := Prod.mk.inj shape
  have returns :
      (StepSystem.run (step Aead.checksumAead) exampleStart
        (oneSelected ++ outsiderBetweenFrames)).map packets =
        some [⟨20, none, fromClient⟩] := by
    decide +kernel
  have harmless :
      (StepSystem.run (step Aead.checksumAead) exampleStart
        oneSelected).all (fun state =>
          decide (StepSystem.Along (step Aead.checksumAead)
            (fun state event =>
              state.outsidersHarmless Aead.checksumAead event = true)
            state outsiderBetweenFrames)) =
        true := by
    decide +kernel
  rw [StepSystem.run_append, reachable, Option.bind_some] at returns
  rw [reachable, Option.all_some, decide_eq_true_eq] at harmless
  obtain ⟨final, reached, returned⟩ :=
    Option.map_eq_some_iff.mp returns
  obtain ⟨alone, aloneReached, same⟩ :=
    packets_without_outsiders Aead.checksumAead [49]
      Server.exampleServer oneSelected outsiderBetweenFrames start final
      reachable
      (by
        intro socket op reading
        have bound :=
          (orderly_of_run reachable).started socket (by simp [reading])
        rw [accepted] at bound
        obtain rfl : socket = 0 := Nat.lt_one_iff.mp bound
        rw [finished] at reading
        cases reading)
      harmless reached
  exact ⟨start, final, alone, reachable, reached, aloneReached, returned,
    same⟩

/--
The byte replaces the first byte of the nonce of the opened header, so the
payload does not authenticate and the packet is lost.
-/
theorem packet_lost_to_outsider :
    (StepSystem.run (step Aead.checksumAead) exampleStart
        (oneSelected ++ outsiderDuringPayload)).map packets =
        some [] ∧
      (StepSystem.run (step Aead.checksumAead) exampleStart
        (oneSelected ++
          outsiderDuringPayload.filter fun event =>
            !event.ofOutsiders fun socket => socket = 0)).map packets =
        some [⟨20, none, fromClient⟩] := by
  decide +kernel

end TcpServer

end Dsvpn
