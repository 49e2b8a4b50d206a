import Dsvpn.SendRun
import Dsvpn.ServerStream

namespace Dsvpn

open ProtocolHeader

/-!
# Framing over TCP

What `Send` writes for a list of packets, cut into any pieces on the way, and
altered where neither the lengths nor the nonces depend on it, is read back by
`Receive` and by `ReceiveFrom`.
-/

/--
After any run in which `Receive` was given a part of the stream: it has
returned once for each complete frame, in order, and holds no more than a part
of the next one; the rest of the stream can be read; and when everything has
arrived and was handed over, it has returned for every frame.
-/
def TcpReceiver.ReadsInOrder
    (aead : Aead 16)
    (key : List UInt8)
    (frames : List WireFrame)
    (past : List UInt8)
    (final : TcpReceiver) : Prop :=
  final.fault = none ∧
    (∃ complete remaining,
      frames = complete ++ remaining ∧
        past =
          wireBytes complete ++
            (wireBytes remaining).take final.pc.phase.held ∧
        (∀ next ∈ remaining.head?,
          final.pc.phase.held ≤ next.bytes.length) ∧
        final.returned = complete.map (WireFrame.delivery aead key)) ∧
    (∃ events finished,
      (∀ event ∈ events, event.Regular) ∧
        StepSystem.run (step aead) final events = some finished ∧
        past ++ events.flatMap ReceiveEvent.bytes = wireBytes frames ∧
        finished.pc.phase.Quiet) ∧
    (past = wireBytes frames →
      final.pc.phase.Quiet →
      final.returned = frames.map (WireFrame.delivery aead key))

/-- The same for `ReceiveFrom`, which skips the altered frames. -/
def TcpServer.ReadsInOrder
    (aead : Aead 16)
    (key : List UInt8)
    (frames : List WireFrame)
    (past : List UInt8)
    (start final : TcpServer) : Prop :=
  final.fault = none ∧
    (∃ complete remaining,
      frames = complete ++ remaining ∧
        past =
          wireBytes complete ++
            (wireBytes remaining).take final.receiveLoop.phase.held ∧
        (∀ next ∈ remaining.head?,
          final.receiveLoop.phase.held ≤ next.bytes.length) ∧
        final.packets = start.packets ++ delivered aead key complete) ∧
    (∃ events finished,
      (∀ event ∈ events, event.undisturbed = true) ∧
        StepSystem.run (step aead) final events = some finished ∧
        past ++ events.flatMap TcpServerEvent.bytes =
          wireBytes frames ∧
        finished.receiveLoop.phase.Quiet) ∧
    (past = wireBytes frames →
      final.receiveLoop.phase.Quiet →
      final.packets = start.packets ++ delivered aead key frames)

theorem TcpReceiver.Reads.readsInOrder
    {aead : Aead 16}
    {key : List UInt8}
    {frames : List WireFrame}
    {past : List UInt8}
    {final : TcpReceiver}
    (correct : aead.Correct)
    (intact : ∀ frame ∈ frames, frame.HeaderIntact aead key)
    (rejected : ∀ frame ∈ frames, frame.AlterationRejected aead key)
    (reads : Reads aead key frames past final)
    (sofar : past <+: wireBytes frames) :
    final.ReadsInOrder aead key frames past := by
  obtain ⟨complete, remaining, split, inStream, returned⟩ :=
    reads.position
  have held :
      ∀ next ∈ remaining.head?,
        final.pc.phase.held ≤ next.bytes.length := by
    intro next first
    have member : next ∈ frames := by
      rw [split]
      exact List.mem_append_right _ (List.mem_of_head? first)
    exact inStream.held_le (intact next member) first
  refine ⟨reads.noFault,
    ⟨complete, remaining, split, inStream.consumed, held, returned⟩,
    reads.exists_run correct intact rejected sofar, ?_⟩
  rintro rfl quiet
  exact reads.returned_eq intact quiet

theorem TcpServer.Delivers.readsInOrder
    {aead : Aead 16}
    {key : List UInt8}
    {owner : SocketId}
    {frames : List WireFrame}
    {past : List UInt8}
    {start final : TcpServer}
    (correct : aead.Correct)
    (intact : ∀ frame ∈ frames, frame.HeaderIntact aead key)
    (rejected : ∀ frame ∈ frames, frame.AlterationRejected aead key)
    (delivers :
      Delivers aead key owner start.packets frames past final)
    (sofar : past <+: wireBytes frames) :
    start.ReadsInOrder aead key frames past final := by
  obtain ⟨complete, remaining, split, reads⟩ := delivers.position
  have held :
      ∀ next ∈ remaining.head?,
        final.receiveLoop.phase.held ≤ next.bytes.length := by
    intro next first
    have member : next ∈ frames := by
      rw [split]
      exact List.mem_append_right _ (List.mem_of_head? first)
    exact reads.inStream.held_le (intact next member) first
  refine ⟨delivers.serves.noFault,
    ⟨complete, remaining, split, reads.inStream.consumed, held,
      reads.returned⟩,
    delivers.exists_run correct intact rejected sofar, ?_⟩
  rintro rfl quiet
  exact delivers.packets_eq intact quiet

/--
`Send` writes one frame for each packet; whatever happens to these frames
apart from their lengths, nonces and length tags, `Receive` returns once for
each frame and `ReceiveFrom` once for each intact one, in order.
-/
theorem tcp_framing
    (aead : Aead 16)
    (correct : aead.Correct)
    (key : List UInt8)
    (frames : List WireFrame)
    (intact : ∀ frame ∈ frames, frame.HeaderIntact aead key)
    (rejected : ∀ frame ∈ frames, frame.AlterationRejected aead key) :
    (∀ (sender : TCPConnection) (socket : SocketId),
      sender.protocol.key = key →
      sender.conn_socket = some socket →
      ∀ frame ∈ frames,
        ∃ ready sent,
          sender.readTun frame.payload = some ready ∧
            ready.Send aead frame.payload.length frame.draw =
              .ok (sent, socket,
                frameBytes aead key frame.payload frame.draw) ∧
            sent.protocol.key = key ∧
            sent.conn_socket = some socket) ∧
    (∀ (receiver : TCPConnection)
        (events : List ReceiveEvent)
        (final : TcpReceiver),
      receiver.protocol.key = key →
      receiver.conn_socket ≠ none →
      (∀ event ∈ events, event.Regular) →
      events.flatMap ReceiveEvent.bytes <+: wireBytes frames →
      StepSystem.run (TcpReceiver.step aead)
          (TcpReceiver.create receiver) events =
        some final →
      final.ReadsInOrder aead key frames
        (events.flatMap ReceiveEvent.bytes)) ∧
    (∀ (server : TcpServer)
        (owner : SocketId)
        (events : List TcpServerEvent)
        (final : TcpServer),
      server.Serves key owner →
      server.AtBoundary →
      (∀ event ∈ events, event.undisturbed = true) →
      events.flatMap TcpServerEvent.bytes <+: wireBytes frames →
      StepSystem.run (TcpServer.step aead) server events =
        some final →
      server.ReadsInOrder aead key frames
        (events.flatMap TcpServerEvent.bytes) final) := by
  refine ⟨?_, ?_, ?_⟩
  · rintro sender socket rfl set frame member
    obtain ⟨buffer, result, staged, sends, sameKey, _⟩ :=
      sender.Send_readTun aead frame.payload frame.draw
        (intact frame member).fits set
    exact ⟨_, _, staged, sends, sameKey, set⟩
  · intro receiver events final sameKey connected regular whole reached
    have reads :=
      TcpReceiver.run_reads correct intact rejected sameKey connected
        regular whole reached
    exact reads.readsInOrder correct intact rejected whole
  · intro server owner events final serves boundary undisturbed whole
      reached
    have delivers :=
      TcpServer.run_delivers correct intact rejected serves boundary
        undisturbed whole reached
    exact delivers.readsInOrder correct intact rejected whole

/-- An intact frame, one with an altered payload, one with altered padding. -/
def alteredStream : List WireFrame :=
  [⟨TcpServer.fromClient, SendDraw.constant 2, TcpServer.clientFrame 2⟩,
    ⟨TcpServer.fromClient, SendDraw.constant 3,
      (TcpServer.clientFrame 3).set 60 0⟩,
    ⟨TcpServer.fromClient, SendDraw.constant 4,
      (TcpServer.clientFrame 4).set 100 0⟩]

/-- The client reads the stream, each header in two pieces. -/
def clientReads : List ReceiveEvent :=
  alteredStream.flatMap fun frame =>
    [.call, .arrive (frame.bytes.take 30),
      .arrive ((frame.bytes.drop 30).take 22), .resume,
      .arrive (frame.bytes.drop 52), .resume]

/-- The server reads the stream, and writes the packets to its TUN device. -/
def serverReads : List TcpServerEvent :=
  .resume ::
    alteredStream.flatMap fun frame =>
      [.arrive (frame.bytes.take 52), .resume,
          .arrive (frame.bytes.drop 52), .resume] ++
        if frame.PayloadIntact Aead.checksumAead
            (AES256GCM.keyOf [49]) then
          [.tunWritten false]
        else
          []

/-- A server that has just selected its only connection. -/
def selectedServer : TcpServer :=
  { TcpServer.exampleStart with
    connection :=
      { TcpServer.exampleStart.connection with
        selected := true
        conn_socket := some 0 }
    accepted := 1
    socket := fun _ => ⟨true, true, []⟩
    tryReceive := fun _ => .finished
    receiveLoop := .waitSelected true }

theorem selectedServer_serves :
    selectedServer.Serves (AES256GCM.keyOf [49]) 0 where
  noFault := rfl
  sameKey := rfl
  selected := rfl
  current := rfl
  ownerOpen := rfl
  alone := fun _ _ => ⟨nofun, nofun⟩
  looping := ⟨nofun, nofun⟩
  writes := fun _ _ _ _ => nofun

theorem tcp_framing_alteredStream :
    let packet : Returned := ⟨20, none, TcpServer.fromClient⟩
    (∃ read,
      StepSystem.run (TcpReceiver.step Aead.checksumAead)
          (TcpReceiver.create
            { TCPConnection.create [49] with conn_socket := some 0 })
          clientReads =
        some read ∧
      read.returned = [packet, ⟨0, none, []⟩, packet]) ∧
    ∃ served,
      StepSystem.run (TcpServer.step Aead.checksumAead)
          selectedServer serverReads =
        some served ∧
      served.packets = [packet, packet] := by
  intro packet
  obtain ⟨_, client, server⟩ :=
    tcp_framing Aead.checksumAead Aead.checksumAead_correct
      (AES256GCM.keyOf [49]) alteredStream
      (by decide +kernel) (by decide +kernel)
  constructor
  · have ends :
        (StepSystem.run (TcpReceiver.step Aead.checksumAead)
          (TcpReceiver.create
            { TCPConnection.create [49] with conn_socket := some 0 })
          clientReads).map TcpReceiver.pc =
          some .idle := by
      decide +kernel
    obtain ⟨read, reached, idle⟩ := Option.map_eq_some_iff.mp ends
    obtain ⟨_, _, _, all⟩ :=
      client { TCPConnection.create [49] with conn_socket := some 0 }
        clientReads read rfl (by simp) (by decide +kernel)
        (by decide +kernel) reached
    refine ⟨read, reached, ?_⟩
    rw [all (by decide +kernel) (by rw [idle]; trivial)]
    decide +kernel
  · have ends :
        (StepSystem.run (TcpServer.step Aead.checksumAead)
          selectedServer serverReads).map
            TcpServer.receiveLoop =
          some (.readHeader 0 (ReadOp.start 0 Size)) := by
      decide +kernel
    obtain ⟨served, reached, waiting⟩ :=
      Option.map_eq_some_iff.mp ends
    obtain ⟨_, _, _, all⟩ :=
      server selectedServer 0 serverReads served selectedServer_serves
        (Or.inl rfl) (by decide +kernel) (by decide +kernel) reached
    refine ⟨served, reached, ?_⟩
    rw [all (by decide +kernel) (by rw [waiting]; rfl)]
    decide +kernel

end Dsvpn
