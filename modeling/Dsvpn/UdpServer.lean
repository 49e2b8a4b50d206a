import Dsvpn.SendRun
import Dsvpn.StepSystem

namespace Dsvpn

open ProtocolHeader

/-!
# The server's two coroutines over UDP

One coroutine calls `ReceiveFrom` again and again, the other reads packets
from the TUN device and calls `SendTo`.  Both run on one thread and share
`last_recv_ep`, which `async_receive_from` writes before `ReceiveFrom` has
looked at the datagram.
-/

variable {Endpoint : Type}

/-- The receiving coroutine; `arrived` holds the source of the datagram. -/
inductive ReceiveFromPc (Endpoint : Type) where
  | idle
  | waiting (size : Nat)
  | arrived (source : Option Endpoint)

/-- A datagram that arrived, and whether `ReceiveFrom` accepted it by now. -/
structure Arrival (Endpoint : Type) where
  source : Endpoint
  accepted : Bool

/-- A datagram sent by `SendTo`, and the authenticated peer at that time. -/
structure Reply (Endpoint : Type) where
  destination : Option Endpoint
  authenticated : Option Endpoint
  deriving Repr, DecidableEq

/--
The connection and the receiving coroutine.  `lastArrival`, `authenticated`
and `replies` only record what happened.
-/
structure UdpServer (Endpoint : Type) where
  connection : UDPConnection Endpoint
  pc : ReceiveFromPc Endpoint
  lastArrival : Option (Arrival Endpoint)
  authenticated : Option Endpoint
  replies : List (Reply Endpoint)
  fault : Option Fault

inductive UdpServerEvent (Endpoint : Type) where
  | receiveFrom (size : Nat)
  | arrive (source : Endpoint) (datagram : List UInt8)
  | receiveError
  | resume
  | sendTo (packet : List UInt8) (draw : SendDraw)

namespace UdpServer

def create (conn_key : List UInt8) : UdpServer Endpoint where
  connection := UDPConnection.create conn_key
  pc := .idle
  lastArrival := none
  authenticated := none
  replies := []
  fault := none

def setFault
    (self : UdpServer Endpoint)
    (fault : Fault) : UdpServer Endpoint :=
  { self with fault := some fault }

/-- The pending `async_receive_from` completes. -/
def arrive
    (self : UdpServer Endpoint)
    (size : Nat)
    (source : Endpoint)
    (datagram : List UInt8) : UdpServer Endpoint :=
  match self.connection.asyncReceiveFrom size (some (source, datagram)) with
  | none =>
      self.setFault .outOfBounds
  | some connection =>
      { self with
        connection := connection
        pc := .arrived (some source)
        lastArrival := some ⟨source, false⟩ }

/-- `ReceiveFrom` resumes and returns. -/
def resume
    (aead : Aead 16)
    (self : UdpServer Endpoint)
    (source : Option Endpoint) : UdpServer Endpoint :=
  match self.connection.resumeReceiveFrom aead with
  | none =>
      self.setFault .outOfBounds
  | some (connection, value) =>
      let returned : UdpServer Endpoint :=
        { self with
          connection := connection
          pc := .idle }
      match source with
      | none =>
          returned
      | some source =>
          if 0 < value then
            { returned with
              lastArrival := some ⟨source, true⟩
              authenticated := some source }
          else
            returned

/-- A packet from the TUN device is sealed and handed to the socket. -/
def sendTo
    (aead : Aead 16)
    (self : UdpServer Endpoint)
    (packet : List UInt8)
    (draw : SendDraw) : UdpServer Endpoint :=
  match self.connection.readTun packet with
  | none =>
      self.setFault .outOfBounds
  | some ready =>
      match ready.SendTo aead packet.length draw with
      | none =>
          self.setFault .outOfBounds
      | some (connection, datagram) =>
          { self with
            connection := connection
            replies :=
              self.replies ++
                [⟨datagram.destination, self.authenticated⟩] }

def step
    (aead : Aead 16)
    (self : UdpServer Endpoint)
    (event : UdpServerEvent Endpoint) : Option (UdpServer Endpoint) :=
  if self.fault.isSome then
    none
  else
    match self.pc, event with
    | .idle, .receiveFrom size =>
        some { self with pc := .waiting size }
    | .waiting size, .arrive source datagram =>
        some (self.arrive size source datagram)
    | .waiting _, .receiveError =>
        some { self with pc := .arrived none }
    | .arrived source, .resume =>
        some (self.resume aead source)
    | _, .sendTo packet draw =>
        some (self.sendTo aead packet draw)
    | _, _ =>
        none

/-- Every reply went to the peer that was authenticated last. -/
def RepliesToAuthenticated (self : UdpServer Endpoint) : Prop :=
  ∀ reply ∈ self.replies, reply.destination = reply.authenticated

instance
    [DecidableEq Endpoint]
    (self : UdpServer Endpoint) :
    Decidable self.RepliesToAuthenticated :=
  inferInstanceAs (Decidable (∀ reply ∈ self.replies, _))

/--
The datagram that arrived last, if any, was accepted by now, or came from the
endpoint that was authenticated last.
-/
def LastArrivalTrusted (self : UdpServer Endpoint) : Prop :=
  ∀ arrival, self.lastArrival = some arrival →
    arrival.accepted = true ∨ self.authenticated = some arrival.source

/-- `SendTo` is called only while the last arrival is trusted. -/
def SendsWhenTrusted
    (self : UdpServer Endpoint)
    (event : UdpServerEvent Endpoint) : Prop :=
  match event with
  | .sendTo packet _ =>
      packet.length ≤ MAX_BUFFSIZE → self.LastArrivalTrusted
  | _ =>
      True

/-- How the shared endpoint relates to what arrived and what was accepted. -/
structure EndpointTracked (server : UdpServer Endpoint) : Prop where
  lastReceived :
    server.connection.last_recv_ep =
      server.lastArrival.map Arrival.source
  accepted :
    ∀ arrival, server.lastArrival = some arrival →
      arrival.accepted = true →
      server.authenticated = some arrival.source
  authenticatedArrived :
    server.lastArrival = none → server.authenticated = none
  pending :
    ∀ source, server.pc = .arrived (some source) →
      server.lastArrival = some ⟨source, false⟩

namespace EndpointTracked

/-- The shared endpoint is the authenticated one when the arrival is trusted. -/
theorem last_recv_ep_eq_iff
    {self : UdpServer Endpoint}
    (tracked : self.EndpointTracked) :
    self.connection.last_recv_ep = self.authenticated ↔
      self.LastArrivalTrusted := by
  rw [tracked.lastReceived]
  cases arrived : self.lastArrival with
  | none =>
      simp [LastArrivalTrusted, arrived,
        tracked.authenticatedArrived arrived]
  | some arrival =>
      constructor
      · intro same other isLast
        obtain rfl := Option.some.inj (arrived.symm.trans isLast)
        exact Or.inr same.symm
      · intro trusted
        rcases trusted arrival arrived with accepted | same
        · exact (tracked.accepted arrival arrived accepted).symm
        · exact same.symm

theorem create (conn_key : List UInt8) :
    (create conn_key : UdpServer Endpoint).EndpointTracked where
  lastReceived := rfl
  accepted := fun _ isLast => by cases isLast
  authenticatedArrived := fun _ => rfl
  pending := fun _ atResume => by cases atResume

theorem setFault
    {self : UdpServer Endpoint}
    (tracked : self.EndpointTracked)
    (fault : Fault) :
    (self.setFault fault).EndpointTracked where
  lastReceived := tracked.lastReceived
  accepted := tracked.accepted
  authenticatedArrived := tracked.authenticatedArrived
  pending := tracked.pending

theorem arrive
    {self : UdpServer Endpoint}
    (tracked : self.EndpointTracked)
    (size : Nat)
    (source : Endpoint)
    (datagram : List UInt8) :
    (self.arrive size source datagram).EndpointTracked := by
  unfold UdpServer.arrive
  split
  · exact tracked.setFault _
  · rename_i connection received
    simp only [UDPConnection.asyncReceiveFrom, Option.bind_eq_bind,
      Option.bind_eq_some_iff, Option.some.injEq] at received
    obtain ⟨_, _, rfl⟩ := received
    exact
      { lastReceived := rfl
        accepted := fun arrival isLast accepted => by
          obtain rfl := Option.some.inj isLast
          cases accepted
        authenticatedArrived := fun nothing => by cases nothing
        pending := fun other atResume => by
          simp only [ReceiveFromPc.arrived.injEq,
            Option.some.injEq] at atResume
          rw [atResume] }

theorem resume
    {aead : Aead 16}
    {self : UdpServer Endpoint}
    (tracked : self.EndpointTracked)
    {source : Option Endpoint}
    (atResume : self.pc = .arrived source) :
    (self.resume aead source).EndpointTracked := by
  unfold UdpServer.resume
  split
  · exact tracked.setFault _
  · rename_i connection value resumed
    simp only [UDPConnection.resumeReceiveFrom, Option.bind_eq_bind,
      Option.bind_eq_some_iff, Prod.exists, Option.some.injEq,
      Prod.mk.injEq] at resumed
    obtain ⟨decoded, _, _, rfl, _⟩ := resumed
    cases source with
    | none =>
        exact
          { lastReceived := tracked.lastReceived
            accepted := tracked.accepted
            authenticatedArrived := tracked.authenticatedArrived
            pending := fun _ returned => by cases returned }
    | some source =>
        have arrived := tracked.pending source atResume
        simp only
        split
        · exact
            { lastReceived := by
                simpa [arrived] using tracked.lastReceived
              accepted := fun arrival isLast _ => by
                obtain rfl := Option.some.inj isLast
                rfl
              authenticatedArrived := fun nothing => by cases nothing
              pending := fun _ returned => by cases returned }
        · exact
            { lastReceived := tracked.lastReceived
              accepted := tracked.accepted
              authenticatedArrived := tracked.authenticatedArrived
              pending := fun _ returned => by cases returned }

end EndpointTracked

/-- What `sendTo` does when it does not fail. -/
theorem sendTo_cases
    (aead : Aead 16)
    (self : UdpServer Endpoint)
    (packet : List UInt8)
    (draw : SendDraw) :
    (∃ connection,
      packet.length ≤ MAX_BUFFSIZE ∧
        connection.last_recv_ep = self.connection.last_recv_ep ∧
        self.sendTo aead packet draw =
          { self with
            connection := connection
            replies :=
              self.replies ++
                [⟨self.connection.last_recv_ep,
                  self.authenticated⟩] }) ∨
      (MAX_BUFFSIZE < packet.length ∧
        self.sendTo aead packet draw = self.setFault .outOfBounds) := by
  by_cases fits : packet.length ≤ MAX_BUFFSIZE
  · obtain ⟨ready, staged, _, ⟨sent, sends⟩⟩ :=
      self.connection.send_readTun aead packet draw fits
    refine Or.inl ⟨sent, fits, ?_, ?_⟩
    · simp only [UDPConnection.readTun, UDPConnection.SendTo,
        Option.bind_eq_bind, Option.bind_eq_some_iff, Option.some.injEq,
        Prod.exists, Prod.mk.injEq] at staged sends
      obtain ⟨_, _, rfl⟩ := staged
      obtain ⟨_, _, _, rfl, _⟩ := sends
      rfl
    · unfold UdpServer.sendTo
      simp only [staged, sends]
  · refine Or.inr ⟨by omega, ?_⟩
    unfold UdpServer.sendTo
    cases staged : self.connection.readTun packet with
    | none =>
        rfl
    | some ready =>
        cases sends : ready.SendTo aead packet.length draw with
        | none =>
            simp only [sends]
        | some output =>
            obtain ⟨after, datagram⟩ := output
            simp only [UDPConnection.readTun, UDPConnection.SendTo,
              Option.bind_eq_bind, Option.bind_eq_some_iff,
              Option.some.injEq, Prod.exists, Prod.mk.injEq]
              at staged sends
            obtain ⟨_, staged, rfl⟩ := staged
            obtain ⟨_, _, sealed, _⟩ := sends
            exact (fits
              (IConnection.encryptFrame_readTun staged sealed).1).elim

/-- Everything one step can do. -/
theorem step_cases
    {aead : Aead 16}
    {self next : UdpServer Endpoint}
    {event : UdpServerEvent Endpoint}
    (performed : step aead self event = some next) :
    (∃ size,
      event = .receiveFrom size ∧
        next = { self with pc := .waiting size }) ∨
    (∃ size source datagram,
      event = .arrive source datagram ∧
        next = self.arrive size source datagram) ∨
    (event = .receiveError ∧
      next = { self with pc := .arrived none }) ∨
    (∃ source,
      self.pc = .arrived source ∧
        event = .resume ∧
        next = self.resume aead source) ∨
    (∃ packet draw,
      event = .sendTo packet draw ∧
        next = self.sendTo aead packet draw) := by
  unfold step at performed
  split at performed
  · cases performed
  · split at performed
    · rename_i size _
      exact Or.inl ⟨size, rfl, (Option.some.inj performed).symm⟩
    · rename_i size source datagram _
      exact Or.inr (Or.inl
        ⟨size, source, datagram, rfl, (Option.some.inj performed).symm⟩)
    · exact Or.inr (Or.inr (Or.inl
        ⟨rfl, (Option.some.inj performed).symm⟩))
    · rename_i source atResume
      exact Or.inr (Or.inr (Or.inr (Or.inl
        ⟨source, atResume, rfl, (Option.some.inj performed).symm⟩)))
    · rename_i packet draw
      exact Or.inr (Or.inr (Or.inr (Or.inr
        ⟨packet, draw, rfl, (Option.some.inj performed).symm⟩)))
    · cases performed

theorem EndpointTracked.step
    {aead : Aead 16}
    {self next : UdpServer Endpoint}
    {event : UdpServerEvent Endpoint}
    (tracked : self.EndpointTracked)
    (performed : UdpServer.step aead self event = some next) :
    next.EndpointTracked := by
  rcases step_cases performed with
      ⟨size, _, rfl⟩ | ⟨size, source, datagram, _, rfl⟩ |
      ⟨_, rfl⟩ | ⟨source, atResume, _, rfl⟩ | ⟨packet, draw, _, rfl⟩
  · exact
      { tracked with
        pending := fun _ atResume => by cases atResume }
  · exact tracked.arrive size source datagram
  · exact
      { tracked with
        pending := fun _ atResume => by cases atResume }
  · exact tracked.resume atResume
  · rcases sendTo_cases aead self packet draw with
        ⟨connection, _, sameEndpoint, sends⟩ | ⟨_, fails⟩
    · rw [sends]
      exact
        { lastReceived := sameEndpoint.trans tracked.lastReceived
          accepted := tracked.accepted
          authenticatedArrived := tracked.authenticatedArrived
          pending := tracked.pending }
    · rw [fails]
      exact tracked.setFault _

@[simp] theorem arrive_replies
    (self : UdpServer Endpoint)
    (size : Nat)
    (source : Endpoint)
    (datagram : List UInt8) :
    (self.arrive size source datagram).replies = self.replies := by
  unfold arrive
  split <;> rfl

@[simp] theorem resume_replies
    (aead : Aead 16)
    (self : UdpServer Endpoint)
    (source : Option Endpoint) :
    (self.resume aead source).replies = self.replies := by
  unfold resume
  split
  · rfl
  · simp only
    split
    · rfl
    · split <;> rfl

/-- One step keeps the replies right exactly when it sends while trusted. -/
theorem step_replies_iff
    {aead : Aead 16}
    {self next : UdpServer Endpoint}
    {event : UdpServerEvent Endpoint}
    (tracked : self.EndpointTracked)
    (performed : step aead self event = some next) :
    next.RepliesToAuthenticated ↔
      self.RepliesToAuthenticated ∧ self.SendsWhenTrusted event := by
  rcases step_cases performed with
      ⟨size, rfl, rfl⟩ | ⟨size, source, datagram, rfl, rfl⟩ |
      ⟨rfl, rfl⟩ | ⟨source, _, rfl, rfl⟩ | ⟨packet, draw, rfl, rfl⟩
  · simp [RepliesToAuthenticated, SendsWhenTrusted]
  · simp [RepliesToAuthenticated, SendsWhenTrusted]
  · simp [RepliesToAuthenticated, SendsWhenTrusted]
  · simp [RepliesToAuthenticated, SendsWhenTrusted]
  · rcases sendTo_cases aead self packet draw with
        ⟨connection, fits, _, sends⟩ | ⟨long, fails⟩
    · rw [sends]
      simp only [SendsWhenTrusted, fits, forall_true_left,
        ← tracked.last_recv_ep_eq_iff]
      simp [RepliesToAuthenticated, or_imp, forall_and]
    · rw [fails]
      have notSent : ¬ packet.length ≤ MAX_BUFFSIZE := by omega
      simp only [SendsWhenTrusted, notSent, false_implies, and_true]
      exact Iff.rfl

/--
In every run, all replies go to the peer authenticated last if and only if
`SendTo` is only ever called while the datagram that arrived last is accepted
or comes from that peer.
-/
theorem replies_authenticated_iff
    (aead : Aead 16)
    (conn_key : List UInt8)
    (events : List (UdpServerEvent Endpoint))
    (final : UdpServer Endpoint)
    (reached :
      StepSystem.run (step aead) (create conn_key) events = some final) :
    final.RepliesToAuthenticated ↔
      StepSystem.Along (step aead) SendsWhenTrusted
        (create conn_key) events := by
  rw [StepSystem.run_iff_along
    (fun tracked performed => tracked.step performed)
    (fun tracked performed => step_replies_iff tracked performed)
    (EndpointTracked.create conn_key) reached]
  refine and_iff_right ?_
  intro reply member
  cases member

/--
A frame from endpoint 1 is accepted; then one byte from endpoint 2 arrives
and is rejected; then a packet is sent.
-/
def intruderEvents : List (UdpServerEvent Nat) :=
  [.receiveFrom 1500,
    .arrive 1
      (frameBytes Aead.checksumAead (AES256GCM.keyOf [49])
        [69] (SendDraw.constant 1)),
    .resume,
    .receiveFrom 1500,
    .arrive 2 [0],
    .resume,
    .sendTo [69] (SendDraw.constant 2)]

/-- The packet goes to endpoint 2, which never authenticated. -/
theorem replies_diverted :
    (StepSystem.run (step Aead.checksumAead) (create [49])
        intruderEvents).map UdpServer.replies =
      some [⟨some 2, some 1⟩] ∧
    ¬ ∀ final,
      StepSystem.run (step Aead.checksumAead) (create [49])
          intruderEvents =
        some final →
      final.RepliesToAuthenticated := by
  have diverted :
      (StepSystem.run (step Aead.checksumAead) (create [49])
          intruderEvents).map UdpServer.replies =
        some [⟨some 2, some 1⟩] := by
    decide +kernel
  refine ⟨diverted, ?_⟩
  intro always
  obtain ⟨final, reached, replies⟩ := Option.map_eq_some_iff.mp diverted
  have same := always final reached ⟨some 2, some 1⟩ (by simp [replies])
  cases same

theorem replies_authenticated_iff_intruder :
    ∃ final,
      StepSystem.run (step Aead.checksumAead) (create [49])
          intruderEvents =
        some final ∧
      (final.RepliesToAuthenticated ↔
        StepSystem.Along (step Aead.checksumAead) SendsWhenTrusted
          (create [49]) intruderEvents) := by
  have performed :
      (StepSystem.run (step Aead.checksumAead) (create [49])
        intruderEvents).isSome := by
    decide +kernel
  obtain ⟨final, reached⟩ := Option.isSome_iff_exists.mp performed
  exact ⟨final, reached,
    replies_authenticated_iff Aead.checksumAead [49]
      intruderEvents final reached⟩

end UdpServer

end Dsvpn
