import Mathlib.Data.List.Infix
import Dsvpn.ClientStream
import Dsvpn.ServerWrites

namespace Dsvpn

open ProtocolHeader
open IpPacket

/-!
# From the client's TUN device to the server's, over TCP

The client's TUN loop puts frames on the connection, the network cuts the
stream as it likes, and the server's receive loop writes what its checks let
through.  Only the packet of the first frame, which selects the connection, is
never written.
-/

variable {Endpoint : Type}

namespace TcpServer

/-- A return that stands for a whole packet, received without an error. -/
def WholeReturn (returned : Returned) : Prop :=
  returned.error = none ∧
    0 ≤ returned.value ∧
    Complete returned.packet

/-- What was written is what was returned and passes the checks. -/
def WritesReturned
    (addresses : Server)
    (server : TcpServer) : Prop :=
  server.addresses = addresses ∧
    ((∀ returned ∈ server.packets, WholeReturn returned) →
      server.tunWritten =
        (server.packets.map Returned.packet).filter fun packet =>
          decide (addresses.Admits packet))

theorem WritesReturned.step
    {aead : Aead 16}
    {addresses : Server}
    {self next : TcpServer}
    {event : TcpServerEvent}
    (writes : WritesReturned addresses self)
    (performed : TcpServer.step aead self event = some next) :
    WritesReturned addresses next := by
  obtain ⟨sameAddresses, written⟩ := writes
  refine ⟨(step_addresses performed).trans sameAddresses, ?_⟩
  intro whole
  cases step_writes performed with
  | silent same nothing =>
      rw [same] at whole ⊢
      rw [show next.tunWritten = self.tunWritten from nothing]
      exact written whole
  | stops error packet same nothing =>
      have last := whole ⟨-1, error, packet⟩ (by simp [same])
      exact absurd last.2.1 (Int.not_le.mpr (by decide : (-1 : Int) < 0))
  | opens error packet header _ _ held same wrote =>
      obtain ⟨noError, _, complete⟩ :=
        whole ⟨packet.length, error, packet⟩ (by simp [same])
      have earlier : ∀ returned ∈ self.packets, WholeReturn returned := by
        intro returned member
        exact whole returned (by simp [same, member])
      have isNone : error.isSome = false := by
        rw [show error = none from noError]
        rfl
      rw [wrote, written earlier, same, isNone, sameAddresses,
        List.map_append, List.filter_append]
      exact congrArg _ (addresses.tunWrite_complete held complete)

theorem tunWritten_of_run
    {aead : Aead 16}
    {conn_key : List UInt8}
    {addresses : Server}
    {events : List TcpServerEvent}
    {final : TcpServer}
    (reached :
      StepSystem.run (step aead) (create conn_key addresses) events =
        some final)
    (whole : ∀ returned ∈ final.packets, WholeReturn returned) :
    final.tunWritten =
      (final.packets.map Returned.packet).filter fun packet =>
        decide (addresses.Admits packet) :=
  (StepSystem.run_invariant
    (fun writes performed => WritesReturned.step writes performed)
    (⟨rfl, fun _ => rfl⟩ : WritesReturned addresses
      (create conn_key addresses))
    reached).2 whole

/-- The packets of a client are written behind the first. -/
theorem tunWritten_delivered
    {aead : Aead 16}
    {conn_key : List UInt8}
    {addresses : Server}
    {events : List TcpServerEvent}
    {final : TcpServer}
    (reached :
      StepSystem.run (step aead) (create conn_key addresses) events =
        some final)
    {packets : List OutgoingPacket}
    (complete : ∀ packet ∈ packets, Complete packet.bytes)
    (returned : final.packets = packets.map OutgoingPacket.delivery) :
    final.tunWritten =
      (packets.map OutgoingPacket.bytes).filter fun packet =>
        decide (addresses.Admits packet) := by
  rw [tunWritten_of_run reached ?_, returned, List.map_map]
  · rfl
  · intro last member
    rw [returned] at member
    obtain ⟨packet, inPackets, rfl⟩ := List.mem_map.mp member
    exact ⟨rfl, Int.natCast_nonneg _, complete packet inPackets⟩

section

variable
    {aead : Aead 16}
    {conn_key : List UInt8}
    {addresses : Server}
    {packets : List OutgoingPacket}
    {events : List TcpServerEvent}
    {final : TcpServer}

theorem starts_of_run
    (correct : aead.Correct)
    (sendable : ∀ packet ∈ packets, packet.Sendable)
    (conditions :
      StepSystem.Along (step aead)
        (fun server event => server.onlyConnection event = true)
        (create conn_key addresses) events)
    (arrived :
      events.flatMap TcpServerEvent.clientBytes <+:
        wireBytes (sentFrames aead (AES256GCM.keyOf conn_key) packets))
    (reached :
      StepSystem.run (step aead) (create conn_key addresses) events =
        some final) :
    Starts aead (AES256GCM.keyOf conn_key)
      (sentFrames aead (AES256GCM.keyOf conn_key) packets)
      (events.flatMap TcpServerEvent.clientBytes) final := by
  have starts :=
    StepSystem.run_invariant_observing
      (fun starts allowed whole performed =>
        Starts.step correct (sentFrames_intact sendable) starts allowed
          whole performed)
      (.unselected (create_unselected conn_key addresses
        (sentFrames aead (AES256GCM.keyOf conn_key) packets)))
      conditions arrived reached
  exact starts

/-- What has been written so far, behind the first packet. -/
theorem tunWritten_prefix
    (starts :
      Starts aead (AES256GCM.keyOf conn_key)
        (sentFrames aead (AES256GCM.keyOf conn_key) packets)
        (events.flatMap TcpServerEvent.clientBytes) final)
    (complete : ∀ packet ∈ packets, Complete packet.bytes)
    (reached :
      StepSystem.run (step aead) (create conn_key addresses) events =
        some final) :
    final.tunWritten <+:
      (packets.tail.map OutgoingPacket.bytes).filter fun packet =>
        decide (addresses.Admits packet) := by
  obtain ⟨frames, isPrefix, returned⟩ := starts.packets_prefix
  have tail :
      (sentFrames aead (AES256GCM.keyOf conn_key) packets).tail =
        sentFrames aead (AES256GCM.keyOf conn_key) packets.tail := by
    simp only [sentFrames, List.map_tail]
  rw [tail] at isPrefix
  have part :
      frames =
        sentFrames aead (AES256GCM.keyOf conn_key)
          (packets.tail.take frames.length) := by
    rw [sentFrames, List.map_take]
    exact List.prefix_iff_eq_take.mp isPrefix
  rw [part, delivered_sentFrames] at returned
  rw [tunWritten_delivered reached
    (fun packet member => complete packet
      (List.mem_of_mem_tail (List.mem_of_mem_take member))) returned]
  exact ((List.take_prefix _ _).map _).filter _

/-- The rest of the stream can arrive, and then everything is written. -/
theorem exists_tunWritten
    (correct : aead.Correct)
    (sendable : ∀ packet ∈ packets, packet.Sendable)
    (starts :
      Starts aead (AES256GCM.keyOf conn_key)
        (sentFrames aead (AES256GCM.keyOf conn_key) packets)
        (events.flatMap TcpServerEvent.clientBytes) final)
    (arrived :
      events.flatMap TcpServerEvent.clientBytes <+:
        wireBytes (sentFrames aead (AES256GCM.keyOf conn_key) packets))
    (complete : ∀ packet ∈ packets, Complete packet.bytes)
    (reached :
      StepSystem.run (step aead) (create conn_key addresses) events =
        some final) :
    ∃ more finished,
      StepSystem.Along (step aead)
          (fun server event => server.onlyConnection event = true)
          final more ∧
        (events ++ more).flatMap TcpServerEvent.clientBytes =
          wireBytes (sentFrames aead (AES256GCM.keyOf conn_key) packets) ∧
        StepSystem.run (step aead) final more = some finished ∧
        finished.tunWritten =
          (packets.tail.map OutgoingPacket.bytes).filter fun packet =>
            decide (addresses.Admits packet) := by
  let frames := sentFrames aead (AES256GCM.keyOf conn_key) packets
  have intact :
      ∀ frame ∈ frames,
        frame.HeaderIntact aead (AES256GCM.keyOf conn_key) ∧
          frame.PayloadIntact aead (AES256GCM.keyOf conn_key) :=
    sentFrames_intact sendable
  obtain ⟨more, finished, allowed, whole, run, all, settled⟩ :=
    StepSystem.exists_run_along_of_progress (startWork frames)
      (fun starts allowed whole performed =>
        Starts.step correct intact starts allowed whole performed)
      (fun starts sofar unfinished =>
        Starts.progresses correct intact starts sofar unfinished)
      starts arrived
  have wholeRun :
      StepSystem.run (step aead) (create conn_key addresses)
          (events ++ more) =
        some finished := by
    rw [StepSystem.run_append, reached]
    exact run
  have startsFinished :=
    StepSystem.run_invariant_observing
      (fun starts allowed whole performed =>
        Starts.step correct intact starts allowed whole performed)
      starts allowed whole run
  rw [all] at startsFinished
  have returned :=
    startsFinished.packets_eq (fun frame member => (intact frame member).1)
      settled
  have tail :
      frames.tail =
        sentFrames aead (AES256GCM.keyOf conn_key) packets.tail := by
    simp only [frames, sentFrames, List.map_tail]
  rw [tail, delivered_sentFrames] at returned
  refine ⟨more, finished, allowed, ?_, run, ?_⟩
  · rw [List.flatMap_append]
    exact all
  · exact tunWritten_delivered wholeRun
      (fun packet member => complete packet (List.mem_of_mem_tail member))
      returned

end

end TcpServer

/--
The server has written, in order, a prefix of the packets behind the first
that the client let through and that the server lets through.  Once the client
has sent everything it read, the rest of its stream can arrive, and then all
of them are written.
-/
def DeliversInOrder
    (aead : Aead 16)
    (addresses : Server)
    (admitted : List (List UInt8))
    (client : ClientLoops Endpoint)
    (events : List TcpServerEvent)
    (server : TcpServer) : Prop :=
  let expected :=
    admitted.tail.filter fun packet => decide (addresses.Admits packet)
  server.tunWritten <+: expected ∧
    (client.tunLoop = .reading →
      ∃ more finished,
        StepSystem.Along (TcpServer.step aead)
            (fun server event => server.onlyConnection event = true)
            server more ∧
          (events ++ more).flatMap TcpServerEvent.clientBytes =
            client.stream ∧
          StepSystem.run (TcpServer.step aead) server more =
            some finished ∧
          finished.tunWritten = expected)

/--
Over TCP, whatever pieces the client's frames leave its TUN buffer in and
arrive in, and however the loops of both sides take turns, the packets of the
client's TUN device come out of the server's in order.
-/
theorem uplink_in_order
    {Endpoint : Type}
    [DecidableEq Endpoint]
    (aead : Aead 16)
    (correct : aead.Correct)
    (conn_key : List UInt8)
    (settings : Client)
    (platform : Platform)
    (mtu : Nat)
    (maximum : mtu ≤ 1500)
    (clientEvents : List (ClientLoopsEvent Endpoint))
    (client : ClientLoops Endpoint)
    (reads :
      ∀ event ∈ clientEvents,
        ClientLoops.ReadsPackets platform mtu event)
    (clientReached :
      StepSystem.run (ClientLoops.step aead)
          (ClientLoops.start settings platform mtu
            (ClientTransport.connectTcp conn_key))
          clientEvents =
        some client)
    (addresses : Server)
    (serverEvents : List TcpServerEvent)
    (server : TcpServer)
    (conditions :
      StepSystem.Along (TcpServer.step aead)
        (fun server event => server.onlyConnection event = true)
        (TcpServer.create conn_key addresses) serverEvents)
    (arrived :
      serverEvents.flatMap TcpServerEvent.clientBytes <+: client.stream)
    (serverReached :
      StepSystem.run (TcpServer.step aead)
          (TcpServer.create conn_key addresses) serverEvents =
        some server) :
    DeliversInOrder aead addresses
      ((clientEvents.flatMap (ClientLoops.packetRead platform)).filter
        settings.admits)
      client serverEvents server := by
  obtain ⟨packets, buffer, streams⟩ :=
    ClientLoops.exists_sent_of_run maximum reads clientReached
  obtain ⟨sameBytes, sent, whenReading⟩ := streams.stage.sent
  have sendable : ∀ packet ∈ packets, packet.Sendable :=
    fun packet member => (streams.sendable packet member).1
  have complete : ∀ packet ∈ packets, Complete packet.bytes :=
    fun packet member => (streams.sendable packet member).2
  have withinSent := arrived.trans sent
  have starts :=
    TcpServer.starts_of_run correct sendable conditions withinSent
      serverReached
  constructor
  · have written :=
      TcpServer.tunWritten_prefix starts complete serverReached
    refine written.trans (List.IsPrefix.filter _ ?_)
    rw [List.map_tail, ← List.drop_one, ← List.drop_one]
    exact List.IsPrefix.drop sameBytes 1
  · intro atRead
    obtain ⟨same, everything⟩ := whenReading atRead
    rw [← same, everything, ← List.map_tail]
    exact TcpServer.exists_tunWritten correct sendable starts withinSent
      complete serverReached

/-- Two packets; the frame of the first leaves in two pieces. -/
def sendsTwoFrames : List (ClientLoopsEvent Nat) :=
  [.tunRead TcpServer.fromClient,
    .resumeRead (SendDraw.constant 1),
    .transmit 100,
    .transmit 222,
    .resumeSend,
    .tunRead TcpServer.fromClient,
    .resumeRead (SendDraw.constant 2),
    .transmit 322,
    .resumeSend]

theorem uplink_in_order_twoFrames :
    ∃ client server,
      StepSystem.run (ClientLoops.step Aead.checksumAead)
          (ClientLoops.start ⟨[10, 0, 0, 2], true⟩ .linux 1448
            (ClientTransport.connectTcp [49]))
          sendsTwoFrames =
        some client ∧
      StepSystem.run (TcpServer.step Aead.checksumAead)
          TcpServer.exampleStart TcpServer.readsTwoFrames =
        some server ∧
      server.tunWritten = [TcpServer.fromClient] ∧
      DeliversInOrder Aead.checksumAead Server.exampleServer
        [TcpServer.fromClient, TcpServer.fromClient] client
        TcpServer.readsTwoFrames server := by
  have clientPerformed :
      (StepSystem.run (ClientLoops.step Aead.checksumAead)
          (ClientLoops.start ⟨[10, 0, 0, 2], true⟩ .linux 1448
            (ClientTransport.connectTcp [49]))
          sendsTwoFrames).map ClientLoops.stream =
        some (TcpServer.readsTwoFrames.flatMap
          TcpServerEvent.clientBytes) := by
    decide +kernel
  have serverPerformed :
      (StepSystem.run (TcpServer.step Aead.checksumAead)
          TcpServer.exampleStart TcpServer.readsTwoFrames).map
          TcpServer.tunWritten =
        some [TcpServer.fromClient] := by
    decide +kernel
  obtain ⟨client, clientReached, stream⟩ :=
    Option.map_eq_some_iff.mp clientPerformed
  obtain ⟨server, serverReached, written⟩ :=
    Option.map_eq_some_iff.mp serverPerformed
  have admitted :
      (sendsTwoFrames.flatMap
          (ClientLoops.packetRead .linux)).filter
          (Client.admits ⟨[10, 0, 0, 2], true⟩) =
        [TcpServer.fromClient, TcpServer.fromClient] := by
    decide +kernel
  refine ⟨client, server, clientReached, serverReached, written, ?_⟩
  rw [← admitted]
  exact uplink_in_order Aead.checksumAead Aead.checksumAead_correct [49]
    ⟨[10, 0, 0, 2], true⟩ .linux 1448 (by decide) sendsTwoFrames client
    (by decide +kernel) clientReached Server.exampleServer
    TcpServer.readsTwoFrames server (by decide +kernel)
    (stream ▸ List.prefix_refl _) serverReached

end Dsvpn
