import Dsvpn.ClientParts
import Dsvpn.Separate

namespace Dsvpn

open ProtocolHeader

/-!
# The client's two loops do not disturb each other

The TUN loop steps on its part of the client as it does on the whole, and so
does the receive loop.  Whatever the interleaving, each loop does what it
would do without the other.
-/

variable {Endpoint : Type}

namespace ClientLoops

/-- The client on which only the TUN loop has run. -/
def tunPart (self : ClientLoops Endpoint) : ClientLoops Endpoint :=
  { self with
    transport := self.transport.sendPart
    receiveLoop := .receiving
    tunWritten := [] }

/-- The client on which only the receive loop has run. -/
def receivePart (self : ClientLoops Endpoint) : ClientLoops Endpoint :=
  { self with
    transport := self.transport.receivePart
    tunLoop := .reading
    sent := []
    fault := none }

theorem stepTunLoop_tunPart
    (aead : Aead 16)
    (self : ClientLoops Endpoint)
    (event : ClientLoopsEvent Endpoint) :
    self.tunPart.stepTunLoop aead event =
      (self.stepTunLoop aead event).map tunPart := by
  have buffer := self.transport.sendPart_tun_recv_buffer
  have pc : self.tunPart.tunLoop = self.tunLoop := rfl
  have takes := self.transport.sendPart_Takes
  simp only [stepTunLoop, pc]
  split
  · rename_i bytes
    simp only [tunRead, tunPart, buffer, Option.map_some]
    split
    · rfl
    · simp only [self.transport.sendPart_setTunBuffer]
  · rename_i bytes_read draw _
    simp only [resumeRead, tunPart, buffer, Option.map_some,
      self.transport.Send_sendPart]
    split
    · cases self.transport.Send aead
        ((bytes_read + 2 ^ 64 - TUN_PACKET_HL self.platform) % 2 ^ 64)
        draw with
      | error fault => rfl
      | ok result => rfl
    · rfl
  · simp only [transmit, tunPart, buffer, takes]
    split
    · simp only [Option.map_some]
      split
      · rfl
      · rfl
    · rfl
  · split
    · rfl
    · rfl
  · rfl

theorem stepTunLoop_receivePart
    {aead : Aead 16}
    {self next : ClientLoops Endpoint}
    {event : ClientLoopsEvent Endpoint}
    (performed : self.stepTunLoop aead event = some next) :
    next.receivePart = self.receivePart := by
  unfold stepTunLoop at performed
  split at performed
  · obtain rfl := Option.some.inj performed
    simp only [tunRead]
    split
    · rfl
    · simp only [receivePart,
        self.transport.setTunBuffer_receivePart]
  · obtain rfl := Option.some.inj performed
    simp only [resumeRead]
    split
    · split
      · rfl
      · rename_i transport peer size sends
        simp only [receivePart,
          ClientTransport.Send_receivePart sends]
    · rfl
  · split at performed
    · obtain rfl := Option.some.inj performed
      unfold transmit
      split
      · rfl
      · rfl
    · cases performed
  · split at performed
    · obtain rfl := Option.some.inj performed
      rfl
    · cases performed
  · cases performed

theorem receive_receivePart (self : ClientLoops Endpoint) :
    self.receivePart.receive = self.receive.receivePart := by
  simp only [receive, receivePart, self.transport.Receive_receivePart]

theorem receive_tunPart (self : ClientLoops Endpoint) :
    self.receive.tunPart = self.tunPart := by
  simp only [receive, tunPart, self.transport.Receive_sendPart]

theorem writeTun_receivePart
    (self : ClientLoops Endpoint)
    (bytes_read : Nat) :
    self.receivePart.writeTun bytes_read =
      (self.writeTun bytes_read).receivePart := by
  simp only [writeTun, receivePart]
  split
  · rfl
  · simp only [self.transport.receivePart_setConnBuffer,
      self.transport.receivePart_conn_recv_buffer]

theorem writeTun_tunPart
    (self : ClientLoops Endpoint)
    (bytes_read : Nat) :
    (self.writeTun bytes_read).tunPart = self.tunPart := by
  simp only [writeTun]
  split
  · rfl
  · simp only [tunPart, self.transport.setConnBuffer_sendPart]

theorem received_receivePart
    (self : ClientLoops Endpoint)
    (transport : ClientTransport Endpoint) :
    self.receivePart.received transport.receivePart =
      (self.received transport).receivePart := by
  simp only [received, transport.receivePart_idle,
    transport.receivePart_returned]
  split
  · split
    · rfl
    · split
      · exact receive_receivePart { self with transport := transport }
      · exact writeTun_receivePart { self with transport := transport } _
  · rfl

theorem received_tunPart
    (self : ClientLoops Endpoint)
    {transport : ClientTransport Endpoint}
    (same : transport.sendPart = self.transport.sendPart) :
    (self.received transport).tunPart = self.tunPart := by
  have after :
      ({ self with transport := transport } : ClientLoops Endpoint).tunPart =
        self.tunPart := by
    simp only [tunPart, same]
  simp only [received]
  split
  · split
    · exact after
    · split
      · rw [receive_tunPart, after]
      · rw [writeTun_tunPart, after]
  · exact after

variable [DecidableEq Endpoint]

theorem stepReceiveLoop_receivePart
    (aead : Aead 16)
    (self : ClientLoops Endpoint)
    (event : ClientLoopsEvent Endpoint) :
    self.receivePart.stepReceiveLoop aead event =
      (self.stepReceiveLoop aead event).map receivePart := by
  have pc : self.receivePart.receiveLoop = self.receiveLoop := rfl
  simp only [stepReceiveLoop, pc]
  split
  · rename_i event _
    have stepped := self.transport.step_receivePart aead event
    simp only [receivePart] at stepped ⊢
    rw [stepped]
    cases self.transport.step aead event with
    | none => rfl
    | some transport =>
        exact congrArg some (self.received_receivePart transport)
  · simp only [tunWrite, receivePart, Option.map_some,
      self.transport.receivePart_conn_recv_buffer]
    split
    · simp only [self.transport.setFault_receivePart]
    · rfl
  · rw [receive_receivePart]
    rfl
  · rfl

theorem stepReceiveLoop_tunPart
    {aead : Aead 16}
    {self next : ClientLoops Endpoint}
    {event : ClientLoopsEvent Endpoint}
    (performed : self.stepReceiveLoop aead event = some next) :
    next.tunPart = self.tunPart := by
  unfold stepReceiveLoop at performed
  split at performed
  · obtain ⟨transport, stepped, rfl⟩ :=
      Option.map_eq_some_iff.mp performed
    exact self.received_tunPart (ClientTransport.step_sendPart stepped)
  · obtain rfl := Option.some.inj performed
    unfold tunWrite
    split
    · simp only [tunPart, self.transport.setFault_sendPart]
    · rfl
  · obtain rfl := Option.some.inj performed
    exact self.receive_tunPart
  · cases performed

/-- Neither loop has crashed, and it is the turn of the event's loop. -/
theorem step_eq_some
    {aead : Aead 16}
    {self next : ClientLoops Endpoint}
    {event : ClientLoopsEvent Endpoint} :
    self.step aead event = some next ↔
      self.fault = none ∧
        self.transport.fault = none ∧
        (if event.isTunLoop then
          self.stepTunLoop aead event
        else
          self.stepReceiveLoop aead event) = some next := by
  unfold step
  cases self.fault with
  | some fault => simp
  | none =>
      cases self.transport.fault with
      | some fault => simp
      | none => simp

/-- The two loops have separate parts of the client. -/
theorem separate (aead : Aead 16) :
    StepSystem.Separate
      (fun self : ClientLoops Endpoint => self.step aead)
      ClientLoopsEvent.isTunLoop tunPart receivePart
      (fun part => part.fault = none)
      (fun part => part.transport.fault = none) where
  live := by
    intro state event next performed
    obtain ⟨live, received, _⟩ := step_eq_some.mp performed
    exact ⟨live, (state.transport.receivePart_fault).trans received⟩
  keepsSecond := by
    intro state event next turn performed
    obtain ⟨_, _, stepped⟩ := step_eq_some.mp performed
    rw [if_pos turn] at stepped
    exact stepTunLoop_receivePart stepped
  keepsFirst := by
    intro state event next turn performed
    obtain ⟨_, _, stepped⟩ := step_eq_some.mp performed
    rw [turn, if_neg Bool.false_ne_true] at stepped
    exact stepReceiveLoop_tunPart stepped
  stepsFirst := by
    intro state other event next turn performed same live
    obtain ⟨unfaulted, _, stepped⟩ := step_eq_some.mp performed
    rw [if_pos turn] at stepped
    have both := other.stepTunLoop_tunPart aead event
    rw [same, state.stepTunLoop_tunPart, stepped] at both
    obtain ⟨otherNext, otherStepped, sameNext⟩ :=
      Option.map_eq_some_iff.mp both.symm
    have otherUnfaulted : other.fault = none :=
      (congrArg fault same).trans unfaulted
    refine ⟨otherNext, step_eq_some.mpr ⟨otherUnfaulted, ?_, ?_⟩, sameNext⟩
    · exact (other.transport.receivePart_fault).symm.trans live
    · rw [if_pos turn]
      exact otherStepped
  stepsSecond := by
    intro state other event next turn performed same live
    obtain ⟨_, unfaulted, stepped⟩ := step_eq_some.mp performed
    rw [turn, if_neg Bool.false_ne_true] at stepped
    have both := other.stepReceiveLoop_receivePart aead event
    rw [same, state.stepReceiveLoop_receivePart, stepped] at both
    obtain ⟨otherNext, otherStepped, sameNext⟩ :=
      Option.map_eq_some_iff.mp both.symm
    have faults :
        other.receivePart.transport.fault =
          state.receivePart.transport.fault :=
      congrArg (fun part => part.transport.fault) same
    refine ⟨otherNext, step_eq_some.mpr ⟨live, ?_, ?_⟩, sameNext⟩
    · calc
        other.transport.fault
        _ = other.receivePart.transport.fault :=
          (other.transport.receivePart_fault).symm
        _ = state.receivePart.transport.fault := faults
        _ = state.transport.fault := state.transport.receivePart_fault
        _ = none := unfaulted
    · rw [turn, if_neg Bool.false_ne_true]
      exact otherStepped

/-- A crashed client performs no event. -/
theorem run_crashed
    {aead : Aead 16}
    {self final : ClientLoops Endpoint}
    {events : List (ClientLoopsEvent Endpoint)}
    (crashed : ¬ (self.fault = none ∧ self.transport.fault = none))
    (reached :
      StepSystem.run (step aead) self events =
        some final) :
    events = [] := by
  cases events with
  | nil => rfl
  | cons event rest =>
      obtain ⟨next, performed, _⟩ :=
        StepSystem.run_cons_eq_some.mp reached
      obtain ⟨live, received, _⟩ := step_eq_some.mp performed
      exact (crashed ⟨live, received⟩).elim

/--
However the loops take turns on the connection, the frames that leave are
those of the TUN loop by itself, and the packets that reach the device are
those of the receive loop by itself; and any two runs of the loops by
themselves can be interleaved in any way.
-/
theorem loops_independent
    (aead : Aead 16)
    (self : ClientLoops Endpoint)
    (events : List (ClientLoopsEvent Endpoint)) :
    (∀ final,
      StepSystem.run (step aead) self events =
        some final →
      ∃ tunAlone receiveAlone,
        StepSystem.run (step aead) self
            (events.filter fun event => event.isTunLoop) =
          some tunAlone ∧
        StepSystem.run (step aead) self
            (events.filter fun event => !event.isTunLoop) =
          some receiveAlone ∧
        final.sent = tunAlone.sent ∧
        final.tunWritten = receiveAlone.tunWritten) ∧
      ∀ tunAlone receiveAlone,
        StepSystem.run (step aead) self
            (events.filter fun event => event.isTunLoop) =
          some tunAlone →
        StepSystem.run (step aead) self
            (events.filter fun event => !event.isTunLoop) =
          some receiveAlone →
        tunAlone.fault = none →
        receiveAlone.transport.fault = none →
        ∃ final,
          StepSystem.run (step aead) self events =
              some final ∧
            final.sent = tunAlone.sent ∧
            final.tunWritten = receiveAlone.tunWritten := by
  constructor
  · intro final reached
    by_cases live : self.fault = none ∧ self.transport.fault = none
    · obtain ⟨tunAlone, tunReached, sameTun⟩ :=
        StepSystem.Separate.run_first (separate aead) rfl
          ((self.transport.receivePart_fault).trans live.2) reached
      obtain ⟨receiveAlone, receiveReached, sameReceive⟩ :=
        StepSystem.Separate.run_second (separate aead) rfl
          live.1 reached
      exact ⟨tunAlone, receiveAlone, tunReached, receiveReached,
        (congrArg sent sameTun :).symm,
        (congrArg tunWritten sameReceive :).symm⟩
    · obtain rfl := run_crashed live reached
      exact ⟨final, final, reached, reached, rfl, rfl⟩
  · intro tunAlone receiveAlone tunReached receiveReached
      tunLive receiveLive
    obtain ⟨final, reached, sameTun, sameReceive⟩ :=
      StepSystem.Separate.run_interleaved (separate aead) rfl rfl
        tunReached receiveReached tunLive
        ((receiveAlone.transport.receivePart_fault).trans receiveLive)
    exact ⟨final, reached, (congrArg sent sameTun :),
      (congrArg tunWritten sameReceive :)⟩

/-- A client over UDP whose server is at endpoint 7. -/
def exampleLoops : ClientLoops Nat :=
  start ⟨[10, 0, 0, 2], false⟩ .linux 1380
    (ClientTransport.connectUdp [49] 7)

/-- A frame of the server. -/
def serverFrame : List UInt8 :=
  frameBytes Aead.checksumAead (AES256GCM.keyOf [49])
    TcpServer.toClient (SendDraw.constant 1)

/-- A frame is received while another one is built and sent. -/
def bothWays : List (ClientLoopsEvent Nat) :=
  [.tunRead TcpServer.fromClient,
    .receive (.udp (.arrive 7 serverFrame)),
    .resumeRead (SendDraw.constant 2),
    .receive (.udp .resume),
    .transmit 322,
    .tunWrite,
    .resumeSend,
    .resumeWrite]

theorem loops_independent_bothWays :
    ∃ final tunAlone receiveAlone again,
      StepSystem.run (step Aead.checksumAead) exampleLoops bothWays =
          some final ∧
        StepSystem.run (step Aead.checksumAead) exampleLoops
            (bothWays.filter fun event => event.isTunLoop) =
          some tunAlone ∧
        StepSystem.run (step Aead.checksumAead) exampleLoops
            (bothWays.filter fun event => !event.isTunLoop) =
          some receiveAlone ∧
        final.sent = tunAlone.sent ∧
        final.tunWritten = receiveAlone.tunWritten ∧
        final.sent.map (fun write => write.1) = [.endpoint (some 7)] ∧
        final.tunWritten = [TcpServer.toClient] ∧
        StepSystem.run (step Aead.checksumAead) exampleLoops bothWays =
          some again ∧
        again.sent = tunAlone.sent ∧
        again.tunWritten = receiveAlone.tunWritten := by
  have ends :
      (StepSystem.run (step Aead.checksumAead) exampleLoops
          bothWays).map
        (fun final =>
          (final.sent.map (fun write => write.1), final.tunWritten)) =
      some ([.endpoint (some 7)], [TcpServer.toClient]) := by
    decide +kernel
  have tunLives :
      (StepSystem.run (step Aead.checksumAead) exampleLoops
          (bothWays.filter fun event => event.isTunLoop)).map
        (fun alone => alone.fault) =
      some none := by
    decide +kernel
  have receiveLives :
      (StepSystem.run (step Aead.checksumAead) exampleLoops
          (bothWays.filter fun event => !event.isTunLoop)).map
        (fun alone => alone.transport.fault) =
      some none := by
    decide +kernel
  obtain ⟨final, reached, both⟩ := Option.map_eq_some_iff.mp ends
  obtain ⟨tunAlone, receiveAlone, tunReached, receiveReached,
      sameSent, sameWritten⟩ :=
    (loops_independent Aead.checksumAead exampleLoops bothWays).1
      final reached
  obtain ⟨sentTo, written⟩ := Prod.mk.inj both
  have tunLive : tunAlone.fault = none := by
    rw [tunReached] at tunLives
    exact Option.some.inj tunLives
  have receiveLive : receiveAlone.transport.fault = none := by
    rw [receiveReached] at receiveLives
    exact Option.some.inj receiveLives
  obtain ⟨again, againReached, againSent, againWritten⟩ :=
    (loops_independent Aead.checksumAead exampleLoops bothWays).2
      tunAlone receiveAlone tunReached receiveReached tunLive receiveLive
  exact ⟨final, tunAlone, receiveAlone, again, reached, tunReached,
    receiveReached, sameSent, sameWritten, sentTo, written,
    againReached, againSent, againWritten⟩

/-- Over TCP a frame leaves in pieces, between which a frame arrives. -/
example :
    (StepSystem.run (step Aead.checksumAead)
        (start ⟨[10, 0, 0, 2], false⟩ .linux 1380
          (.connectTcp [49]) : ClientLoops Nat)
        [.receive (.tcp (.arrive (serverFrame.take 40))),
          .tunRead TcpServer.fromClient,
          .resumeRead (SendDraw.constant 2),
          .receive (.tcp (.arrive ((serverFrame.drop 40).take 12))),
          .transmit 100,
          .receive (.tcp .resume),
          .receive (.tcp (.arrive (serverFrame.drop Size))),
          .receive (.tcp .resume),
          .transmit 222,
          .tunWrite]).map
        (fun final =>
          ((final.sent.flatMap fun write => write.2) ==
            TcpServer.clientFrame 2, final.tunWritten)) =
      some (true, [TcpServer.toClient]) := by
  decide +kernel

end ClientLoops

end Dsvpn
