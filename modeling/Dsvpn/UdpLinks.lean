import Dsvpn.UdpSteps

namespace Dsvpn

open ProtocolHeader
open IpPacket
open DatagramLink

/-!
# The session refines two datagram links

Towards the server, the filters of the link are the checks of the client's TUN
loop and those of the server's receive loop.  Towards the client, they are the
checks of the server's TUN loop; the client takes whatever it decrypts.
-/

variable {Endpoint : Type}

namespace UdpSession

/-! ## The link towards the server -/

section Run

variable
    {aead : Aead 16}
    {settings : Client}
    {addresses : Server}
    {endpoint : Endpoint}
    {key : List UInt8}
    {mtu : Nat}
    {self next : UdpSession Endpoint}
    {event : UdpSessionEvent Endpoint}

/-- What a step means for the link from the client to the server. -/
def uplinkEvents
    (self : UdpSession Endpoint) :
    UdpSessionEvent Endpoint → List (LinkEvent (List UInt8))
  | .clientTun _ packet _ none => [.send packet.bytes]
  | .resumeServer false => (self.server.arrived.map .deliver).toList
  | _ => []

/-- What a step means for the link from the server to the client. -/
def downlinkEvents
    (self : UdpSession Endpoint) :
    UdpSessionEvent Endpoint → List (LinkEvent (List UInt8))
  | .serverTun packet _ none =>
      if self.knowsPeer then [.send packet.bytes] else []
  | .resumeClient connection false =>
      ((self.client connection).arrived.map .deliver).toList
  | _ => []

def uplinkStep
    (settings : Client)
    (addresses : Server) :
    Link (List UInt8) → LinkEvent (List UInt8) →
      Option (Link (List UInt8)) :=
  DatagramLink.step settings.admits fun packet =>
    decide (addresses.Admits packet)

def downlinkStep
    (addresses : Server) :
    Link (List UInt8) → LinkEvent (List UInt8) →
      Option (Link (List UInt8)) :=
  DatagramLink.step addresses.admitsToClient fun _ => true

/--
A datagram that neither side has sent does not authenticate, unless the client
refuses it for its source.
-/
def StraysRejected
    (aead : Aead 16)
    (key : List UInt8)
    (self : UdpSession Endpoint) :
    UdpSessionEvent Endpoint → Prop
  | .strayToServer _ datagram =>
      Unauthenticated aead key datagram
  | .strayToClient connection source datagram =>
      (self.client connection).coroutine.connection.remote_send_ep ≠
          some source ∨
        Unauthenticated aead key datagram
  | _ => True

instance
    [DecidableEq Endpoint]
    (aead : Aead 16)
    (key : List UInt8)
    (self : UdpSession Endpoint)
    (event : UdpSessionEvent Endpoint) :
    Decidable (StraysRejected aead key self event) :=
  match event with
  | .strayToServer _ datagram =>
      inferInstanceAs (Decidable (Unauthenticated aead key datagram))
  | .strayToClient _ _ _ =>
      inferInstanceAs (Decidable (_ ≠ _ ∨ Unauthenticated aead key _))
  | .clientTun .. | .clientTunError _ | .clientReceive _
  | .deliverToClient .. | .clientError .. | .resumeClient ..
  | .serverTun .. | .serverTunError | .serverReceive
  | .deliverToServer .. | .serverError | .resumeServer _ =>
      inferInstanceAs (Decidable True)

/-- What the server's receive coroutine is about to decode. -/
def ServerHolds
    (aead : Aead 16)
    (server : SessionEnd (UdpServer Endpoint))
    (sent : List (List UInt8)) : Prop :=
  match server.coroutine.pc with
  | .arrived (some _) =>
      server.coroutine.connection.HoldsArrival aead sent server.arrived
  | _ =>
      server.arrived = none

structure Uplink
    (aead : Aead 16)
    (key : List UInt8)
    (mtu : Nat)
    (session : UdpSession Endpoint)
    (link : Link (List UInt8)) : Prop where
  carries :
    List.Forall₂ (SealedAs aead key mtu) session.toServer link.sent
  received : link.received = session.serverWritten
  pending : ServerHolds aead session.server link.sent

/-- Only the key and the receive buffer matter. -/
theorem holdsArrival_congr
    {connection other : IConnection}
    (sameKey : other.protocol.key = connection.protocol.key)
    (sameBuffer : other.conn_recv_buffer = connection.conn_recv_buffer)
    {sent : List (List UInt8)}
    {arrived : Option Nat}
    (holds : connection.HoldsArrival aead sent arrived) :
    other.HoldsArrival aead sent arrived := by
  cases arrived with
  | none =>
      rw [IConnection.HoldsArrival, sameBuffer, Protocol.DecryptHeader,
        AES256GCM.decryptData]
      rw [show other.protocol.aes256gcm_crypto.key = _ from sameKey]
      exact holds
  | some index =>
      obtain ⟨packet, there, draw, known, covered, held⟩ := holds
      refine ⟨packet, there, draw, known, covered, ?_⟩
      rw [sameBuffer, sameKey]
      exact held

/-- What the server writes is what the link hands out. -/
theorem serverWrites
    (correct : aead.Correct)
    (maximum : mtu ≤ MAX_BUFFSIZE)
    (addresses : Server)
    {server : SessionEnd (UdpServer Endpoint)}
    {datagrams sent : List (List UInt8)}
    (carries : List.Forall₂ (SealedAs aead key mtu) datagrams sent)
    {source : Option Endpoint}
    (atResume : server.coroutine.pc = .arrived source)
    (holds : ServerHolds aead server sent) :
    (server.coroutine.tunWrite aead addresses .resume).toList =
      ((server.arrived.bind fun index => sent[index]?).toList).filter
        fun packet => decide (addresses.Admits packet) := by
  unfold ServerHolds at holds
  rw [atResume] at holds
  unfold UdpServer.tunWrite
  rw [atResume]
  cases source with
  | none =>
      have nothing : server.arrived = none := holds
      rw [nothing]
      rfl
  | some source =>
      obtain ⟨result, value, decoded, _, decides⟩ :=
        IConnection.decryptFrame_arrival correct maximum carries holds
      simp only [UDPConnection.resumeReceiveFrom, decoded,
        Option.bind_eq_bind, Option.bind_some]
      cases found : server.arrived.bind fun index => sent[index]? with
      | none =>
          rw [found] at decides
          rw [show value = 0 from decides]
          rfl
      | some packet =>
          rw [found] at decides
          obtain ⟨rfl, held⟩ := decides
          obtain ⟨index, _, there⟩ := Option.bind_eq_some_iff.mp found
          obtain ⟨complete, _⟩ := sent_of_getElem? carries there
          exact addresses.tunWrite_complete held complete

namespace Uplink

theorem create
    (conn_key : List UInt8)
    (addresses : Server)
    (IPv6 : Bool)
    (mtu : Nat)
    (endpoint : Endpoint) :
    Uplink aead key mtu
      (UdpSession.create conn_key addresses IPv6 mtu endpoint) idle where
  carries := .nil
  received := rfl
  pending := rfl

variable {link : Link (List UInt8)}

/-- A step that leaves the client's datagrams and the server alone. -/
theorem frame
    (uplink : Uplink aead key mtu self link)
    (sameDatagrams : next.toServer = self.toServer)
    (sameWritten : next.serverWritten = self.serverWritten)
    (pending : ServerHolds aead next.server link.sent) :
    Uplink aead key mtu next link where
  carries := sameDatagrams ▸ uplink.carries
  received := uplink.received.trans sameWritten.symm
  pending := pending

/-- The link after one more packet has been offered. -/
theorem send
    (uplink : Uplink aead key mtu self link)
    {packet : TunPacket}
    (draw : SendDraw)
    (fits : packet.bytes.length ≤ mtu)
    (sent :
      next.toServer =
        self.toServer ++
          if settings.admits packet.bytes then
            [frameBytes aead key packet.bytes draw]
          else
            [])
    (sameWritten : next.serverWritten = self.serverWritten)
    (sameServer : next.server = self.server) :
    ∃ linkNext,
      StepSystem.run (uplinkStep settings addresses) link
          [.send packet.bytes] =
        some linkNext ∧
      Uplink aead key mtu next linkNext := by
  refine ⟨_, rfl, ?_, uplink.received.trans sameWritten.symm, ?_⟩
  · rw [sent]
    refine List.rel_append uplink.carries ?_
    cases admitted : settings.admits packet.bytes with
    | false => simp [admitted]
    | true =>
        simp only [admitted, if_true, List.filter_cons_of_pos,
          List.filter_nil]
        exact .cons
          ⟨Client.complete_of_admits admitted, fits, draw, rfl⟩ .nil
  · rw [sameServer]
    have pending := uplink.pending
    unfold ServerHolds at pending ⊢
    split
    · rename_i source atResume
      rw [atResume] at pending
      exact pending.append _
    · rename_i elsewhere
      split at pending
      · rename_i source atResume
        exact (elsewhere source atResume).elim
      · exact pending

theorem clientStep
    [DecidableEq Endpoint]
    (uplink : Uplink aead key mtu self link)
    {index : Nat}
    {arrived : Option Nat}
    {event : UdpReceiveEvent Endpoint}
    (performed : self.clientStep aead index arrived event = some next) :
    Uplink aead key mtu next link := by
  obtain ⟨coroutine, _, rfl⟩ := Option.map_eq_some_iff.mp performed
  exact uplink.frame rfl rfl uplink.pending

/-- Until the receive coroutine is resumed, the link does nothing. -/
theorem waits
    (uplink : Uplink aead key mtu self link)
    (sameDatagrams : next.toServer = self.toServer)
    (sameWritten : next.serverWritten = self.serverWritten)
    (pending : ServerHolds aead next.server link.sent) :
    ∃ linkNext,
      StepSystem.run (uplinkStep settings addresses) link [] =
          some linkNext ∧
        Uplink aead key mtu next linkNext :=
  ⟨link, rfl, uplink.frame sameDatagrams sameWritten pending⟩

theorem resumeServer
    (correct : aead.Correct)
    (maximum : mtu ≤ MAX_BUFFSIZE)
    (ready : Ready settings addresses key mtu endpoint self)
    (uplink : Uplink aead key mtu self link)
    {failed : Bool}
    (performed : self.resumeServer aead failed = some next) :
    ∃ linkNext,
      StepSystem.run (uplinkStep settings addresses) link
          (self.uplinkEvents (.resumeServer failed)) =
        some linkNext ∧
      Uplink aead key mtu next linkNext := by
  obtain ⟨source, server, atResume, _, idle, nothing, rfl⟩ :=
    ready.resumeServer_cases performed
  have pending : ServerHolds aead server link.sent := by
    unfold ServerHolds
    rw [idle]
    exact nothing
  have writes :=
    serverWrites correct maximum self.addresses uplink.carries atResume
      uplink.pending
  cases failed with
  | true =>
      exact uplink.waits rfl (List.append_nil _) pending
  | false =>
      cases arrived : self.server.arrived with
      | none =>
          rw [arrived] at writes
          simp only [uplinkEvents, arrived, Option.map_none,
            Option.toList_none]
          refine uplink.waits rfl ?_ pending
          simp [writes]
      | some index =>
          have holds := uplink.pending
          unfold ServerHolds at holds
          rw [atResume] at holds
          cases source with
          | none =>
              rw [arrived] at holds
              cases holds
          | some source =>
              rw [arrived] at holds writes
              obtain ⟨packet, there, _⟩ := holds
              rw [Option.bind_some, there] at writes
              refine ⟨{ link with
                received :=
                  link.received ++
                    [packet].filter fun packet =>
                      decide (addresses.Admits packet) }, ?_,
                uplink.carries, ?_, pending⟩
              · simp only [uplinkEvents, arrived, Option.map_some,
                  Option.toList_some, StepSystem.run, uplinkStep,
                  DatagramLink.step, there]
              · show link.received ++ _ = self.serverWritten ++ _
                rw [uplink.received, if_neg Bool.false_ne_true, writes,
                  ready.sameAddresses]
                rfl

/-- One step of the session is what the link does in its events. -/
theorem step
    [DecidableEq Endpoint]
    (correct : aead.Correct)
    (maximum : mtu ≤ MAX_BUFFSIZE)
    (ready : Ready settings addresses key mtu endpoint self)
    (uplink : Uplink aead key mtu self link)
    (strays : StraysRejected aead key self event)
    (performed : UdpSession.step aead self event = some next) :
    ∃ linkNext,
      StepSystem.run (uplinkStep settings addresses) link
          (self.uplinkEvents event) =
        some linkNext ∧
      Uplink aead key mtu next linkNext := by
  have sameMtu := ready.sameMtu
  cases event with
  | clientTun index packet draw error =>
      simp only [UdpSession.step] at performed
      split at performed
      · cases performed
      · rename_i allowed
        obtain rfl := Option.some.inj performed
        have fits : packet.bytes.length ≤ mtu := by omega
        obtain ⟨client, _, _, turns⟩ :=
          self.clientTun_cases aead index packet draw error (by omega)
        rw [turns]
        cases error with
        | some error =>
            refine uplink.waits ?_ rfl uplink.pending
            simp
        | none =>
            refine uplink.send draw fits ?_ rfl rfl
            rw [(ready.client index).sameKey, ready.sameSettings]
            simp
  | clientTunError index =>
      obtain rfl := Option.some.inj performed
      exact uplink.waits rfl rfl uplink.pending
  | clientReceive index =>
      simp only [UdpSession.step] at performed
      split at performed
      · cases performed
      · exact ⟨link, rfl, uplink.clientStep performed⟩
  | deliverToClient index datagram =>
      simp only [UdpSession.step, Option.bind_eq_bind,
        Option.bind_eq_some_iff] at performed
      obtain ⟨_, _, _, _, performed⟩ := performed
      exact ⟨link, rfl, uplink.clientStep performed⟩
  | strayToClient index source datagram =>
      exact ⟨link, rfl, uplink.clientStep performed⟩
  | clientError index error =>
      exact ⟨link, rfl, uplink.clientStep performed⟩
  | resumeClient index failed =>
      obtain ⟨_, _, _, client, _, _, _, _, _, rfl⟩ :=
        ready.resumeClient_cases performed
      exact uplink.waits rfl rfl uplink.pending
  | serverTun packet draw error =>
      simp only [UdpSession.step] at performed
      split at performed
      · cases performed
      · rename_i allowed
        obtain rfl := Option.some.inj performed
        obtain ⟨server, on, sameArrived, turns⟩ :=
          self.serverTun_cases aead packet draw error (by omega)
        rw [turns]
        refine uplink.waits rfl rfl ?_
        have pending := uplink.pending
        unfold ServerHolds at pending ⊢
        rw [on.pc, sameArrived]
        split at pending
        · exact holdsArrival_congr on.key on.buffer pending
        · exact pending
  | serverTunError =>
      obtain rfl := Option.some.inj performed
      exact uplink.waits rfl rfl uplink.pending
  | serverReceive =>
      simp only [UdpSession.step] at performed
      split at performed
      · cases performed
      · obtain ⟨coroutine, stepped, rfl⟩ :=
          Option.map_eq_some_iff.mp performed
        rw [sameMtu] at stepped
        obtain rfl := ready.server.receiveFrom stepped
        exact uplink.waits rfl rfl rfl
  | deliverToServer source datagram =>
      simp only [UdpSession.step, Option.bind_eq_bind,
        Option.bind_eq_some_iff] at performed
      obtain ⟨bytes, there, performed⟩ := performed
      obtain ⟨coroutine, stepped, rfl⟩ :=
        Option.map_eq_some_iff.mp performed
      obtain rfl := ready.server.arrive maximum stepped
      obtain ⟨packet, position, sealedAs⟩ :=
        sealedAs_of_getElem? uplink.carries there
      exact uplink.waits rfl rfl
        (IConnection.holdsArrival_frame maximum ready.server.sameKey
          position sealedAs)
  | strayToServer source datagram =>
      obtain ⟨coroutine, stepped, rfl⟩ :=
        Option.map_eq_some_iff.mp performed
      obtain rfl := ready.server.arrive maximum stepped
      have stray : Unauthenticated aead key datagram := strays
      rw [← ready.server.sameKey] at stray
      exact uplink.waits rfl rfl
        (IConnection.holdsArrival_stray link.sent maximum stray)
  | serverError =>
      obtain ⟨coroutine, stepped, rfl⟩ :=
        Option.map_eq_some_iff.mp performed
      obtain rfl := ready.server.receiveError stepped
      exact uplink.waits rfl rfl rfl
  | resumeServer failed =>
      exact uplink.resumeServer correct maximum ready performed

end Uplink

/-! ## The link towards the client -/

/-- What a receive coroutine of the client is about to decode. -/
def ClientHolds
    (aead : Aead 16)
    (client : SessionEnd (UdpReceiver Endpoint))
    (sent : List (List UInt8)) : Prop :=
  match client.coroutine.pc with
  | .arrived none =>
      (client.coroutine.connection.last_recv_ep =
          client.coroutine.connection.remote_send_ep ∧
        client.coroutine.connection.HoldsArrival aead sent
          client.arrived) ∨
      (client.coroutine.connection.last_recv_ep ≠
          client.coroutine.connection.remote_send_ep ∧
        client.arrived = none)
  | _ =>
      client.arrived = none

structure Downlink
    (aead : Aead 16)
    (key : List UInt8)
    (mtu : Nat)
    (session : UdpSession Endpoint)
    (link : Link (List UInt8)) : Prop where
  carries :
    List.Forall₂ (SealedAs aead key mtu) session.toClient link.sent
  received : link.received = session.clientWritten
  pending :
    ∀ index, ClientHolds aead (session.client index) link.sent

/-- What the client writes is what the link hands out. -/
theorem clientWrites
    [DecidableEq Endpoint]
    (correct : aead.Correct)
    (maximum : mtu ≤ MAX_BUFFSIZE)
    {client : SessionEnd (UdpReceiver Endpoint)}
    {datagrams sent : List (List UInt8)}
    (carries : List.Forall₂ (SealedAs aead key mtu) datagrams sent)
    {error : Option ErrorCode}
    {connection : UDPConnection Endpoint}
    {value : Int}
    (atResume : client.coroutine.pc = .arrived error)
    (received :
      client.coroutine.connection.resumeReceive aead =
        some (connection, value))
    (holds : ClientHolds aead client sent) :
    (Client.tunWrite ⟨value, error,
        connection.conn_recv_buffer.slice Size value.toNat⟩).toList =
      (client.arrived.bind fun index => sent[index]?).toList := by
  unfold ClientHolds at holds
  rw [atResume] at holds
  cases error with
  | some error =>
      have nothing : client.arrived = none := holds
      rw [nothing]
      rfl
  | none =>
      unfold UDPConnection.resumeReceive at received
      rcases holds with ⟨same, holds⟩ | ⟨other, nothing⟩
      · obtain ⟨result, decodedValue, decoded, _, decides⟩ :=
          IConnection.decryptFrame_arrival correct maximum carries holds
        rw [if_neg (not_not.mpr same), decoded] at received
        obtain ⟨rfl, rfl⟩ := Prod.mk.inj (Option.some.inj received)
        cases found : client.arrived.bind fun index => sent[index]? with
        | none =>
            rw [found] at decides
            rw [show decodedValue = 0 from decides]
            rfl
        | some packet =>
            rw [found] at decides
            obtain ⟨rfl, held⟩ := decides
            obtain ⟨index, _, there⟩ := Option.bind_eq_some_iff.mp found
            obtain ⟨complete, _⟩ := sent_of_getElem? carries there
            have minimum := complete.minimum
            simp only [Client.tunWrite, Option.isSome_none,
              Bool.false_eq_true, if_false, Int.toNat_natCast]
            rw [if_neg (by omega), if_neg (by omega), held]
      · rw [if_pos other] at received
        obtain ⟨rfl, rfl⟩ := Prod.mk.inj (Option.some.inj received)
        rw [nothing]
        rfl

namespace Downlink

theorem create
    (conn_key : List UInt8)
    (addresses : Server)
    (IPv6 : Bool)
    (mtu : Nat)
    (endpoint : Endpoint) :
    Downlink aead key mtu
      (UdpSession.create conn_key addresses IPv6 mtu endpoint) idle where
  carries := .nil
  received := rfl
  pending := fun _ => rfl

variable {link : Link (List UInt8)}

/-- Until a receive coroutine is resumed, the link does nothing. -/
theorem waits
    (downlink : Downlink aead key mtu self link)
    (sameDatagrams : next.toClient = self.toClient)
    (sameWritten : next.clientWritten = self.clientWritten)
    (pending : ∀ index, ClientHolds aead (next.client index) link.sent) :
    ∃ linkNext,
      StepSystem.run (downlinkStep addresses) link [] = some linkNext ∧
        Downlink aead key mtu next linkNext :=
  ⟨link, rfl, sameDatagrams ▸ downlink.carries,
    downlink.received.trans sameWritten.symm, pending⟩

/-- One connection of the client changes. -/
theorem pending_setClient
    {sent : List (List UInt8)}
    (pending : ∀ index, ClientHolds aead (self.client index) sent)
    {index : Nat}
    {client : SessionEnd (UdpReceiver Endpoint)}
    (holds : ClientHolds aead client sent) :
    ∀ other,
      ClientHolds aead ((self.setClient index client).client other)
        sent := by
  intro other
  simp only [setClient, Function.update_apply]
  split
  · exact holds
  · exact pending other

/-- Nothing arrives, so the link does nothing. -/
theorem clientStep_quiet
    (downlink : Downlink aead key mtu self link)
    {index : Nat}
    {coroutine : UdpReceiver Endpoint}
    (elsewhere : coroutine.pc ≠ .arrived none) :
    ∃ linkNext,
      StepSystem.run (downlinkStep addresses) link [] = some linkNext ∧
        Downlink aead key mtu
          (self.setClient index
            { self.client index with
              coroutine := coroutine
              arrived := none })
          linkNext := by
  refine downlink.waits rfl rfl (pending_setClient downlink.pending ?_)
  unfold ClientHolds
  split
  · rename_i atResume
    exact (elsewhere atResume).elim
  · rfl

/-- The link after one more packet has been offered. -/
theorem send
    (downlink : Downlink aead key mtu self link)
    {packet : TunPacket}
    (draw : SendDraw)
    (fits : packet.bytes.length ≤ mtu)
    (sent :
      next.toClient =
        self.toClient ++
          if addresses.admitsToClient packet.bytes then
            [frameBytes aead key packet.bytes draw]
          else
            [])
    (sameWritten : next.clientWritten = self.clientWritten)
    (sameClient : next.client = self.client) :
    ∃ linkNext,
      StepSystem.run (downlinkStep addresses) link
          [.send packet.bytes] =
        some linkNext ∧
      Downlink aead key mtu next linkNext := by
  refine ⟨_, rfl, ?_, downlink.received.trans sameWritten.symm, ?_⟩
  · rw [sent]
    refine List.rel_append downlink.carries ?_
    cases admitted : addresses.admitsToClient packet.bytes with
    | false => simp [admitted]
    | true =>
        simp only [admitted, if_true, List.filter_cons_of_pos,
          List.filter_nil]
        exact .cons
          ⟨Server.complete_of_admitsToClient admitted, fits, draw, rfl⟩
          .nil
  · rw [sameClient]
    intro index
    have pending := downlink.pending index
    unfold ClientHolds at pending ⊢
    split
    · rename_i atResume
      rw [atResume] at pending
      exact pending.imp_left fun holds => ⟨holds.1, holds.2.append _⟩
    · rename_i elsewhere
      split at pending
      · rename_i atResume
        exact (elsewhere atResume).elim
      · exact pending

theorem resumeClient
    [DecidableEq Endpoint]
    (correct : aead.Correct)
    (maximum : mtu ≤ MAX_BUFFSIZE)
    (ready : Ready settings addresses key mtu endpoint self)
    (downlink : Downlink aead key mtu self link)
    {index : Nat}
    {failed : Bool}
    (performed : self.resumeClient aead index failed = some next) :
    ∃ linkNext,
      StepSystem.run (downlinkStep addresses) link
          (self.downlinkEvents (.resumeClient index failed)) =
        some linkNext ∧
      Downlink aead key mtu next linkNext := by
  obtain ⟨error, connection, value, client, atResume, received, _, idle,
      nothing, rfl⟩ :=
    ready.resumeClient_cases performed
  have pending :
      ∀ other,
        ClientHolds aead ((self.setClient index client).client other)
          link.sent := by
    refine pending_setClient downlink.pending ?_
    unfold ClientHolds
    rw [idle]
    exact nothing
  have writes :=
    clientWrites correct maximum downlink.carries atResume received
      (downlink.pending index)
  cases failed with
  | true =>
      exact downlink.waits rfl (List.append_nil _) pending
  | false =>
      cases arrived : (self.client index).arrived with
      | none =>
          rw [arrived] at writes
          simp only [downlinkEvents, arrived, Option.map_none,
            Option.toList_none]
          refine downlink.waits rfl ?_ pending
          simp [writes]
      | some datagram =>
          have holds := downlink.pending index
          unfold ClientHolds at holds
          rw [atResume] at holds
          cases error with
          | some error =>
              rw [arrived] at holds
              cases holds
          | none =>
              rw [arrived] at holds writes
              rcases holds with ⟨_, packet, there, _⟩ | ⟨_, absent⟩
              · rw [Option.bind_some, there] at writes
                refine ⟨{ link with
                  received := link.received ++ [packet] }, ?_,
                  downlink.carries, ?_, pending⟩
                · simp only [downlinkEvents, arrived, Option.map_some,
                    Option.toList_some, StepSystem.run, downlinkStep,
                    DatagramLink.step, there]
                  rfl
                · show link.received ++ _ = self.clientWritten ++ _
                  rw [downlink.received, if_neg Bool.false_ne_true, writes]
                  rfl
              · cases absent

/-- One step of the session is what the link does in its events. -/
theorem step
    [DecidableEq Endpoint]
    (correct : aead.Correct)
    (maximum : mtu ≤ MAX_BUFFSIZE)
    (ready : Ready settings addresses key mtu endpoint self)
    (downlink : Downlink aead key mtu self link)
    (strays : StraysRejected aead key self event)
    (performed : UdpSession.step aead self event = some next) :
    ∃ linkNext,
      StepSystem.run (downlinkStep addresses) link
          (self.downlinkEvents event) =
        some linkNext ∧
      Downlink aead key mtu next linkNext := by
  have sameMtu := ready.sameMtu
  cases event with
  | clientTun index packet draw error =>
      simp only [UdpSession.step] at performed
      split at performed
      · cases performed
      · obtain rfl := Option.some.inj performed
        obtain ⟨client, on, sameArrived, turns⟩ :=
          self.clientTun_cases aead index packet draw error (by omega)
        rw [turns]
        refine downlink.waits rfl rfl
          (pending_setClient downlink.pending ?_)
        have pending := downlink.pending index
        unfold ClientHolds at pending ⊢
        rw [on.pc, sameArrived, on.last, on.remote]
        split at pending
        · exact pending.imp_left fun holds =>
            ⟨holds.1, holdsArrival_congr on.key on.buffer holds.2⟩
        · exact pending
  | clientTunError index =>
      obtain rfl := Option.some.inj performed
      exact downlink.waits rfl rfl
        (pending_setClient downlink.pending (downlink.pending index))
  | clientReceive index =>
      simp only [UdpSession.step] at performed
      split at performed
      · cases performed
      · obtain ⟨coroutine, stepped, rfl⟩ :=
          Option.map_eq_some_iff.mp performed
        rw [sameMtu] at stepped
        obtain rfl := (ready.client index).call stepped
        exact downlink.clientStep_quiet fun wrong => by cases wrong
  | deliverToClient index datagram =>
      simp only [UdpSession.step, Option.bind_eq_bind,
        Option.bind_eq_some_iff] at performed
      obtain ⟨bytes, there, source, isServer, performed⟩ := performed
      obtain ⟨coroutine, stepped, rfl⟩ :=
        Option.map_eq_some_iff.mp performed
      obtain rfl := (ready.client index).arrive maximum stepped
      obtain ⟨packet, position, sealedAs⟩ :=
        sealedAs_of_getElem? downlink.carries there
      exact downlink.waits rfl rfl
        (pending_setClient downlink.pending
          (Or.inl ⟨isServer.symm,
            IConnection.holdsArrival_frame maximum
              (ready.client index).sameKey position sealedAs⟩))
  | strayToClient index source datagram =>
      obtain ⟨coroutine, stepped, rfl⟩ :=
        Option.map_eq_some_iff.mp performed
      obtain rfl := (ready.client index).arrive maximum stepped
      refine downlink.waits rfl rfl
        (pending_setClient downlink.pending ?_)
      by_cases isServer :
          (self.client index).coroutine.connection.remote_send_ep =
            some source
      · have stray : Unauthenticated aead key datagram :=
          strays.resolve_left (not_not.mpr isServer)
        rw [← (ready.client index).sameKey] at stray
        exact Or.inl ⟨isServer.symm,
          IConnection.holdsArrival_stray link.sent maximum stray⟩
      · exact Or.inr ⟨fun same => isServer same.symm, rfl⟩
  | clientError index error =>
      obtain ⟨coroutine, stepped, rfl⟩ :=
        Option.map_eq_some_iff.mp performed
      obtain rfl := (ready.client index).fail stepped
      exact downlink.clientStep_quiet fun wrong => by cases wrong
  | resumeClient index failed =>
      exact downlink.resumeClient correct maximum ready performed
  | serverTun packet draw error =>
      simp only [UdpSession.step] at performed
      split at performed
      · cases performed
      · obtain rfl := Option.some.inj performed
        obtain ⟨server, on, sameArrived, turns⟩ :=
          self.serverTun_cases aead packet draw error (by omega)
        rw [turns]
        cases error with
        | some error =>
            refine downlink.waits ?_ rfl downlink.pending
            simp
        | none =>
            cases peer : self.knowsPeer with
            | false =>
                simp only [downlinkEvents, peer]
                refine downlink.waits ?_ rfl downlink.pending
                simp
            | true =>
                simp only [downlinkEvents, peer, if_true]
                refine downlink.send draw (by omega) ?_ rfl rfl
                rw [ready.server.sameKey, ready.sameAddresses]
                simp
  | serverTunError =>
      obtain rfl := Option.some.inj performed
      exact downlink.waits rfl rfl downlink.pending
  | serverReceive =>
      simp only [UdpSession.step] at performed
      split at performed
      · cases performed
      · obtain ⟨coroutine, _, rfl⟩ := Option.map_eq_some_iff.mp performed
        exact downlink.waits rfl rfl downlink.pending
  | deliverToServer source datagram =>
      simp only [UdpSession.step, Option.bind_eq_bind,
        Option.bind_eq_some_iff] at performed
      obtain ⟨_, _, performed⟩ := performed
      obtain ⟨coroutine, _, rfl⟩ := Option.map_eq_some_iff.mp performed
      exact downlink.waits rfl rfl downlink.pending
  | strayToServer source datagram =>
      obtain ⟨coroutine, _, rfl⟩ := Option.map_eq_some_iff.mp performed
      exact downlink.waits rfl rfl downlink.pending
  | serverError =>
      obtain ⟨coroutine, _, rfl⟩ := Option.map_eq_some_iff.mp performed
      exact downlink.waits rfl rfl downlink.pending
  | resumeServer failed =>
      obtain ⟨_, server, _, _, _, _, rfl⟩ :=
        ready.resumeServer_cases performed
      exact downlink.waits rfl rfl downlink.pending

end Downlink

end Run

/-! ## Whole runs -/

/-- No access outside an array, on either side. -/
def NoFault (self : UdpSession Endpoint) : Prop :=
  self.server.coroutine.fault = none ∧
    ∀ index, (self.client index).coroutine.fault = none

section Runs

variable
    [DecidableEq Endpoint]
    {aead : Aead 16}
    {conn_key : List UInt8}
    {addresses : Server}
    {IPv6 : Bool}
    {mtu : Nat}
    {endpoint : Endpoint}
    {events : List (UdpSessionEvent Endpoint)}
    {final : UdpSession Endpoint}
    (correct : aead.Correct)
    (maximum : mtu ≤ MAX_BUFFSIZE)
    (reached :
      StepSystem.run (step aead)
          (create conn_key addresses IPv6 mtu endpoint) events =
        some final)
    (strays :
      StepSystem.Along (step aead)
        (StraysRejected aead (AES256GCM.keyOf conn_key))
        (create conn_key addresses IPv6 mtu endpoint) events)

include maximum reached in
theorem noFault_of_run : final.NoFault := by
  have ready :=
    StepSystem.run_invariant
      (fun ready performed => Ready.step maximum ready performed)
      (Ready.create conn_key addresses IPv6 mtu endpoint) reached
  exact ⟨ready.server.noFault, fun index => (ready.client index).noFault⟩

include correct maximum reached strays

theorem uplink_of_run :
    ∃ link,
      StepSystem.run
          (uplinkStep ⟨addresses.client_tun_ip_integer, IPv6⟩ addresses)
          idle
          (StepSystem.outputs (step aead) uplinkEvents
            (create conn_key addresses IPv6 mtu endpoint) events) =
        some link ∧
      link.received = final.serverWritten := by
  obtain ⟨link, refined, _, uplink⟩ :=
    StepSystem.run_refines
      (fun session link =>
        Ready ⟨addresses.client_tun_ip_integer, IPv6⟩ addresses
            (AES256GCM.keyOf conn_key) mtu endpoint session ∧
          Uplink aead (AES256GCM.keyOf conn_key) mtu session link)
      (by
        rintro session event next link ⟨ready, uplink⟩ strays performed
        obtain ⟨linkNext, refined, stays⟩ :=
          uplink.step correct maximum ready strays performed
        exact ⟨linkNext, refined, ready.step maximum performed, stays⟩)
      ⟨Ready.create conn_key addresses IPv6 mtu endpoint,
        Uplink.create conn_key addresses IPv6 mtu endpoint⟩
      strays reached
  exact ⟨link, refined, uplink.received⟩

theorem downlink_of_run :
    ∃ link,
      StepSystem.run (downlinkStep addresses) idle
          (StepSystem.outputs (step aead) downlinkEvents
            (create conn_key addresses IPv6 mtu endpoint) events) =
        some link ∧
      link.received = final.clientWritten := by
  obtain ⟨link, refined, _, downlink⟩ :=
    StepSystem.run_refines
      (fun session link =>
        Ready ⟨addresses.client_tun_ip_integer, IPv6⟩ addresses
            (AES256GCM.keyOf conn_key) mtu endpoint session ∧
          Downlink aead (AES256GCM.keyOf conn_key) mtu session link)
      (by
        rintro session event next link ⟨ready, downlink⟩ strays performed
        obtain ⟨linkNext, refined, stays⟩ :=
          downlink.step correct maximum ready strays performed
        exact ⟨linkNext, refined, ready.step maximum performed, stays⟩)
      ⟨Ready.create conn_key addresses IPv6 mtu endpoint,
        Downlink.create conn_key addresses IPv6 mtu endpoint⟩
      strays reached
  exact ⟨link, refined, downlink.received⟩

end Runs

/--
In every run of client and server over a network that loses, repeats, delays
and reorders datagrams and adds ones that do not authenticate, each direction
does what a datagram link does, between the checks of the two loops; and
neither side leaves its arrays.
-/
theorem refines_links
    [DecidableEq Endpoint]
    (aead : Aead 16)
    (correct : aead.Correct)
    (conn_key : List UInt8)
    (addresses : Server)
    (IPv6 : Bool)
    (mtu : Nat)
    (maximum : mtu ≤ 1500)
    (endpoint : Endpoint)
    (events : List (UdpSessionEvent Endpoint))
    (final : UdpSession Endpoint)
    (reached :
      StepSystem.run (step aead)
          (create conn_key addresses IPv6 mtu endpoint) events =
        some final)
    (strays :
      StepSystem.Along (step aead)
        (StraysRejected aead (AES256GCM.keyOf conn_key))
        (create conn_key addresses IPv6 mtu endpoint) events) :
    (∃ uplink,
      StepSystem.run
          (uplinkStep ⟨addresses.client_tun_ip_integer, IPv6⟩ addresses)
          idle
          (StepSystem.outputs (step aead) uplinkEvents
            (create conn_key addresses IPv6 mtu endpoint) events) =
        some uplink ∧
      uplink.received = final.serverWritten) ∧
    (∃ downlink,
      StepSystem.run (downlinkStep addresses) idle
          (StepSystem.outputs (step aead) downlinkEvents
            (create conn_key addresses IPv6 mtu endpoint) events) =
        some downlink ∧
      downlink.received = final.clientWritten) ∧
    final.NoFault := by
  refine ⟨?_, ?_, ?_⟩
  · exact uplink_of_run correct maximum reached strays
  · exact downlink_of_run correct maximum reached strays
  · exact noFault_of_run maximum reached

/--
The client's datagram arrives twice, from different endpoints, and something
else in between; the server answers, and the answer arrives.
-/
def exampleEvents : List (UdpSessionEvent Nat) :=
  [.clientTun 0 Tunnel.outgoing (SendDraw.constant 1) none,
    .serverReceive,
    .deliverToServer 7 0,
    .resumeServer false,
    .serverReceive,
    .strayToServer 9 (List.replicate 60 0),
    .resumeServer false,
    .serverTun Tunnel.incoming (SendDraw.constant 2) none,
    .serverReceive,
    .deliverToServer 8 0,
    .resumeServer false,
    .clientReceive 0,
    .deliverToClient 0 0,
    .resumeClient 0 false]

/-- The client of the server at endpoint 1. -/
def exampleSession : UdpSession Nat :=
  create [49] Server.exampleServer true 1448 1

/-- What the server writes comes twice, as the schedule has it. -/
theorem refines_links_repeated :
    ∃ final,
      StepSystem.run (step Aead.checksumAead) exampleSession
          exampleEvents =
        some final ∧
      final.serverWritten =
        [Tunnel.outgoing.bytes, Tunnel.outgoing.bytes] ∧
      final.clientWritten = [Tunnel.incoming.bytes] ∧
      (∃ uplink,
        StepSystem.run
            (uplinkStep ⟨[10, 0, 0, 2], true⟩ Server.exampleServer) idle
            (StepSystem.outputs (step Aead.checksumAead) uplinkEvents
              exampleSession exampleEvents) =
          some uplink ∧
        uplink.received = final.serverWritten) ∧
      (∃ downlink,
        StepSystem.run (downlinkStep Server.exampleServer) idle
            (StepSystem.outputs (step Aead.checksumAead) downlinkEvents
              exampleSession exampleEvents) =
          some downlink ∧
        downlink.received = final.clientWritten) ∧
      final.NoFault := by
  have performed :
      (StepSystem.run (step Aead.checksumAead) exampleSession
          exampleEvents).map
          (fun final => (final.serverWritten, final.clientWritten)) =
        some ([Tunnel.outgoing.bytes, Tunnel.outgoing.bytes],
          [Tunnel.incoming.bytes]) := by
    decide +kernel
  have strays :
      StepSystem.Along (step Aead.checksumAead)
        (StraysRejected Aead.checksumAead (AES256GCM.keyOf [49]))
        exampleSession exampleEvents := by
    decide +kernel
  obtain ⟨final, reached, written⟩ := Option.map_eq_some_iff.mp performed
  exact ⟨final, reached, congrArg Prod.fst written,
    congrArg Prod.snd written,
    refines_links Aead.checksumAead Aead.checksumAead_correct [49]
      Server.exampleServer true 1448 (by decide) 1 exampleEvents final
      reached strays⟩

end UdpSession

end Dsvpn
