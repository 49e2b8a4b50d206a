import Dsvpn.ClientDuplex
import Dsvpn.FirstFrame
import Dsvpn.UdpSteps

namespace Dsvpn

open ProtocolHeader
open IpPacket

/-!
# What the client puts on its TCP connection

The TUN loop writes a frame straight from the buffer it was built in, in as
many pieces as the network takes.  In every run of the two loops the pieces
make up the frames of the packets that the loop let through, in order.
-/

variable {Endpoint : Type}

/-- The TUN device hands over whole packets. -/
def WholePacket (packet : List UInt8) : Prop :=
  0 < packet.length ∧
    (version packet = 4 → 20 ≤ packet.length) ∧
    (version packet = 6 → 40 ≤ packet.length)

instance (packet : List UInt8) : Decidable (WholePacket packet) :=
  inferInstanceAs (Decidable (_ ∧ (_ → _) ∧ (_ → _)))

def WholePacket.tunPacket
    {packet : List UInt8}
    (whole : WholePacket packet) : TunPacket where
  bytes := packet
  nonempty := whole.1
  ipv4 := whole.2.1
  ipv6 := whole.2.2

/-- Sealing leaves the frame at the start of the TUN buffer. -/
theorem IConnection.encryptFrame_tun_recv_buffer
    {aead : Aead 16}
    {self after : IConnection}
    {size : Nat}
    {draw : SendDraw}
    {frame : List UInt8}
    (sealed : self.encryptFrame aead size draw = some (after, frame)) :
    frame.length ≤ 2000 ∧
      after.tun_recv_buffer.slice 0 frame.length = frame := by
  simp only [encryptFrame, Option.bind_eq_bind, Option.bind_eq_some_iff,
    Option.some.injEq, Prod.mk.injEq] at sealed
  obtain ⟨_, _, loaded, read, rfl, rfl⟩ := sealed
  unfold Buffer.load? at read
  split at read
  · rename_i inside
    obtain rfl := Option.some.inj read
    rw [Buffer.length_slice]
    exact ⟨by omega, rfl⟩
  · cases read

namespace ClientLoops

/-- What the network has taken so far. -/
def stream (self : ClientLoops Endpoint) : List UInt8 :=
  (self.sent.map Prod.snd).flatten

/-- The packet that the device hands over, behind what it puts before it. -/
def packetRead
    (platform : Platform) :
    ClientLoopsEvent Endpoint → List (List UInt8)
  | .tunRead bytes => [bytes.drop (TUN_PACKET_HL platform)]
  | _ => []

/-- Every read brings a whole packet up to the MTU. -/
def ReadsPackets
    (platform : Platform)
    (mtu : Nat) :
    ClientLoopsEvent Endpoint → Prop
  | .tunRead bytes =>
      WholePacket (bytes.drop (TUN_PACKET_HL platform)) ∧
        bytes.length ≤ mtu + TUN_PACKET_HL platform
  | _ => True

instance
    (platform : Platform)
    (mtu : Nat)
    (event : ClientLoopsEvent Endpoint) :
    Decidable (ReadsPackets platform mtu event) :=
  match event with
  | .tunRead _ => inferInstanceAs (Decidable (_ ∧ _))
  | .resumeRead _ | .transmit _ | .resumeSend | .receive _ | .tunWrite
  | .resumeWrite =>
      inferInstanceAs (Decidable True)

/-- The connection the TUN loop sends on. -/
structure SendsOn
    (key : List UInt8)
    (buffer : PacketBuffer)
    (transport : ClientTransport Endpoint) : Prop where
  overTcp :
    ∃ receiver, transport = .tcp receiver ∧
      receiver.connection.conn_socket = some 0
  sameKey : transport.connection.members.protocol.key = key
  sameBuffer : transport.connection.members.tun_recv_buffer = buffer

/--
Where the TUN loop is, after it has read the packets `reads` and sent those of
`packets`.
-/
inductive TunStage
    (aead : Aead 16)
    (key : List UInt8)
    (settings : Client)
    (platform : Platform)
    (reads : List (List UInt8))
    (packets : List OutgoingPacket)
    (buffer : PacketBuffer)
    (stream : List UInt8) :
    TunLoopPc Endpoint → Prop where
  | reading :
      packets.map OutgoingPacket.bytes = reads.filter settings.admits →
      stream = wireBytes (sentFrames aead key packets) →
      TunStage aead key settings platform reads packets buffer stream
        .reading
  | read
      (earlier : List (List UInt8))
      (packet : List UInt8) :
      reads = earlier ++ [packet] →
      packets.map OutgoingPacket.bytes = earlier.filter settings.admits →
      stream = wireBytes (sentFrames aead key packets) →
      WholePacket packet →
      packet.length ≤ MAX_BUFFSIZE →
      buffer.slice Size packet.length = packet →
      TunStage aead key settings platform reads packets buffer stream
        (.read (TUN_PACKET_HL platform + packet.length))
  | sending
      (earlier : List OutgoingPacket)
      (last : OutgoingPacket)
      (sent : Nat) :
      packets = earlier ++ [last] →
      packets.map OutgoingPacket.bytes = reads.filter settings.admits →
      stream =
        wireBytes (sentFrames aead key earlier) ++
          (frameBytes aead key last.bytes last.draw).take sent →
      sent ≤ (frameBytes aead key last.bytes last.draw).length →
      (frameBytes aead key last.bytes last.draw).length ≤ 2000 →
      buffer.slice 0
          (frameBytes aead key last.bytes last.draw).length =
        frameBytes aead key last.bytes last.draw →
      TunStage aead key settings platform reads packets buffer stream
        (.sending (.socket 0)
          (frameBytes aead key last.bytes last.draw).length sent)

/-- The TUN loop of a client over TCP in a run. -/
structure Streams
    (aead : Aead 16)
    (key : List UInt8)
    (settings : Client)
    (platform : Platform)
    (mtu : Nat)
    (reads : List (List UInt8))
    (packets : List OutgoingPacket)
    (buffer : PacketBuffer)
    (loops : ClientLoops Endpoint) : Prop where
  sameSettings : loops.settings = settings
  samePlatform : loops.platform = platform
  sameMtu : loops.mtu = mtu
  noFault : loops.fault = none
  sendsOn : SendsOn key buffer loops.transport
  toSocket : ∀ piece ∈ loops.sent, piece.1 = .socket 0
  sendable :
    ∀ packet ∈ packets, packet.Sendable ∧ Complete packet.bytes
  stage :
    TunStage aead key settings platform reads packets buffer loops.stream
      loops.tunLoop

section

variable
    {aead : Aead 16}
    {key : List UInt8}
    {settings : Client}
    {platform : Platform}
    {mtu : Nat}
    {reads : List (List UInt8)}
    {packets : List OutgoingPacket}
    {buffer : PacketBuffer}
    {self next : ClientLoops Endpoint}

theorem SendsOn.congr
    {transport other : ClientTransport Endpoint}
    (sendsOn : SendsOn key buffer transport)
    (same : other.sendPart = transport.sendPart) :
    SendsOn key buffer other := by
  obtain ⟨⟨receiver, rfl, connected⟩, sameKey, sameBuffer⟩ := sendsOn
  cases other with
  | udp receiver => cases same
  | tcp receiver =>
      have sameConnection :=
        congrArg TcpReceiver.connection (ClientTransport.tcp.inj same)
      obtain ⟨members, _, socket, _⟩ :=
        TCPConnection.mk.inj sameConnection
      exact
        { overTcp := ⟨receiver, rfl, socket.trans connected⟩
          sameKey :=
            (congrArg (fun members => members.protocol.key) members).trans
              sameKey
          sameBuffer :=
            (congrArg IConnection.tun_recv_buffer members).trans
              sameBuffer }

/-- What the receive loop does leaves the TUN loop alone. -/
theorem Streams.congr
    (streams :
      Streams aead key settings platform mtu reads packets buffer self)
    (same : next.tunPart = self.tunPart) :
    Streams aead key settings platform mtu reads packets buffer next := by
  obtain ⟨sameSettings, samePlatform, sameMtu, sameTransport, sameLoop,
      sameSent, _, _, sameFault⟩ := ClientLoops.mk.inj same
  have sameStream : next.stream = self.stream :=
    congrArg (fun sent => (sent.map Prod.snd).flatten) sameSent
  exact
    { sameSettings := sameSettings.trans streams.sameSettings
      samePlatform := samePlatform.trans streams.samePlatform
      sameMtu := sameMtu.trans streams.sameMtu
      noFault := sameFault.trans streams.noFault
      sendsOn := streams.sendsOn.congr sameTransport
      toSocket := by
        rw [show next.sent = self.sent from sameSent]
        exact streams.toSocket
      sendable := streams.sendable
      stage := by
        rw [sameStream, show next.tunLoop = self.tunLoop from sameLoop]
        exact streams.stage }

/-- The device puts a packet behind the place of the header. -/
theorem Streams.tunRead
    (maximum : mtu ≤ MAX_BUFFSIZE)
    (streams :
      Streams aead key settings platform mtu reads packets buffer self)
    (atRead : self.tunLoop = .reading)
    {bytes : List UInt8}
    (allowed :
      ReadsPackets platform mtu
        (.tunRead bytes : ClientLoopsEvent Endpoint)) :
    ∃ buffer,
      Streams aead key settings platform mtu
        (reads ++ [bytes.drop (TUN_PACKET_HL platform)]) packets buffer
        (self.tunRead bytes) := by
  obtain ⟨whole, fits⟩ := allowed
  have header : TUN_PACKET_HL platform ≤ Size :=
    Nat.le_trans (TUN_PACKET_HL_le platform) (by decide)
  have longer : TUN_PACKET_HL platform < bytes.length := by
    have nonempty := whole.1
    rw [List.length_drop] at nonempty
    omega
  have inside :
      Size - TUN_PACKET_HL platform + bytes.length ≤ 2000 := by
    simp only [Size, MAX_BUFFSIZE] at *
    omega
  have all :
      bytes.take ((mtu + TUN_PACKET_HL platform) % 2 ^ 32) = bytes := by
    apply List.take_of_length_le
    simp only [Size, MAX_BUFFSIZE] at *
    omega
  let written :=
    buffer.overwrite (Size - TUN_PACKET_HL platform) bytes
  have held :
      written.slice Size (bytes.drop (TUN_PACKET_HL platform)).length =
        bytes.drop (TUN_PACKET_HL platform) := by
    rw [Buffer.slice_overwrite_inside _ inside (by omega) (by
      rw [List.length_drop]
      omega)]
    rw [show Size - (Size - TUN_PACKET_HL platform) =
      TUN_PACKET_HL platform by omega, List.take_length]
  have turns :
      self.tunRead bytes =
        { self with
          transport :=
            self.transport.setMembers
              { self.transport.connection.members with
                tun_recv_buffer := written }
          tunLoop :=
            .read (TUN_PACKET_HL platform +
              (bytes.drop (TUN_PACKET_HL platform)).length) } := by
    unfold ClientLoops.tunRead
    rw [streams.sameMtu, streams.samePlatform,
      streams.sendsOn.sameBuffer]
    simp only [all, Buffer.store?_eq_some _ inside, written,
      List.length_drop]
    rw [Nat.add_sub_cancel' (Nat.le_of_lt longer)]
  have stage := streams.stage
  rw [atRead] at stage
  cases stage with
  | reading same sent =>
      rw [turns]
      refine ⟨written,
        { streams with
          sendsOn := ?_
          stage := ?_ }⟩
      · obtain ⟨⟨receiver, isTcp, connected⟩, sameKey, _⟩ :=
          streams.sendsOn
        rw [isTcp] at sameKey ⊢
        exact ⟨⟨_, rfl, connected⟩, sameKey, rfl⟩
      · refine .read reads _ rfl same sent whole ?_ held
        rw [List.length_drop]
        omega

/-- The loop lets the packet through and seals it, or reads again. -/
theorem Streams.resumeRead
    (streams :
      Streams aead key settings platform mtu reads packets buffer self)
    {bytes_read : Nat}
    (atResume : self.tunLoop = .read bytes_read)
    (draw : SendDraw) :
    ∃ packets buffer,
      Streams aead key settings platform mtu reads packets buffer
        (self.resumeRead aead bytes_read draw) := by
  have stage := streams.stage
  rw [atResume] at stage
  cases stage with
  | read earlier packet isRead same sent whole fits held =>
      have decision :
          self.settings.forwardsToServer
              self.transport.connection.members.tun_recv_buffer =
            settings.admits packet := by
        rw [streams.sameSettings, streams.sendsOn.sameBuffer]
        exact settings.forwardsToServer_tun
          (show buffer.slice Size whole.tunPacket.bytes.length =
            whole.tunPacket.bytes from held)
      have sameReads :
          reads.filter settings.admits =
            earlier.filter settings.admits ++
              [packet].filter settings.admits := by
        rw [isRead, List.filter_append]
      unfold ClientLoops.resumeRead
      rw [decision]
      cases admitted : settings.admits packet with
      | false =>
          refine ⟨packets, buffer, { streams with stage := ?_ }⟩
          refine .reading ?_ sent
          rw [same, sameReads]
          simp [admitted]
      | true =>
          obtain ⟨⟨receiver, isTcp, connected⟩, sameKey, sameBuffer⟩ :=
            streams.sendsOn
          rw [isTcp] at sameKey sameBuffer
          have size :
              (TUN_PACKET_HL platform + packet.length + 2 ^ 64 -
                  TUN_PACKET_HL self.platform) % 2 ^ 64 =
                packet.length := by
            rw [streams.samePlatform]
            simp only [MAX_BUFFSIZE] at fits
            omega
          have heldHere :
              receiver.connection.tun_recv_buffer.slice Size
                  packet.length =
                packet := by
            rw [show receiver.connection.tun_recv_buffer = buffer from
              sameBuffer]
            exact held
          obtain ⟨result, encrypted, resultKey, _⟩ :=
            receiver.connection.toIConnection.encryptFrame_spec aead
              packet packet.length draw
              (by simp only [MAX_BUFFSIZE] at fits; omega) heldHere fits
          rw [show receiver.connection.protocol.key = key from sameKey]
            at encrypted resultKey
          obtain ⟨inside, atStart⟩ :=
            IConnection.encryptFrame_tun_recv_buffer encrypted
          have sends :
              self.transport.Send aead packet.length draw =
                .ok
                  (.tcp
                    { receiver with
                      connection :=
                        { receiver.connection with
                          toIConnection := result } },
                    .socket 0,
                    (frameBytes aead key packet draw).length) := by
            rw [isTcp]
            simp only [ClientTransport.Send, TCPConnection.Send, encrypted,
              connected]
          simp only [size, sends, if_true]
          refine ⟨packets ++ [⟨packet, draw⟩], result.tun_recv_buffer,
            { streams with
              sendsOn := ⟨⟨_, rfl, connected⟩, resultKey, rfl⟩
              sendable := ?_
              stage := ?_ }⟩
          · intro other member
            rcases List.mem_append.mp member with earlier | last
            · exact streams.sendable other earlier
            · obtain rfl := List.mem_singleton.mp last
              exact ⟨⟨whole.1, fits⟩,
                Client.complete_of_admits
                  (show settings.admits whole.tunPacket.bytes = true from
                    admitted)⟩
          · refine .sending packets ⟨packet, draw⟩ 0 rfl ?_ ?_
              (Nat.zero_le _) inside atStart
            · rw [sameReads, List.map_append, same]
              simp [admitted]
            · rw [List.take_zero, List.append_nil]
              exact sent

/-- The network takes the next bytes of the frame. -/
theorem Streams.transmit
    (streams :
      Streams aead key settings platform mtu reads packets buffer self)
    {peer : Peer Endpoint}
    {size sent length : Nat}
    (sending : self.tunLoop = .sending peer size sent)
    (takes : self.transport.Takes size sent length = true) :
    Streams aead key settings platform mtu reads packets buffer
      (self.transmit peer size sent length) := by
  have stage := streams.stage
  rw [sending] at stage
  cases stage with
  | sending earlier last _ isLast same written _ inside held =>
      obtain ⟨⟨receiver, isTcp, connected⟩, sameKey, sameBuffer⟩ :=
        streams.sendsOn
      have room :
          sent + length ≤
            (frameBytes aead key last.bytes last.draw).length := by
        rw [isTcp] at takes
        simp only [ClientTransport.Takes, Bool.and_eq_true,
          decide_eq_true_eq] at takes
        exact takes.2
      have part := Buffer.take_drop_slice buffer 0 room
      rw [held, Nat.zero_add] at part
      have turns :
          self.transmit (.socket 0)
              (frameBytes aead key last.bytes last.draw).length sent
              length =
            { self with
              tunLoop :=
                .sending (.socket 0)
                  (frameBytes aead key last.bytes last.draw).length
                  (sent + length)
              sent :=
                self.sent ++ [(.socket 0, buffer.slice sent length)] } := by
        unfold ClientLoops.transmit
        rw [streams.sendsOn.sameBuffer,
          Buffer.load?_eq_some _ (by omega)]
      rw [turns]
      refine
        { streams with
          toSocket := ?_
          stage := ?_ }
      · intro piece member
        rcases List.mem_append.mp member with earlier | new
        · exact streams.toSocket piece earlier
        · obtain rfl := List.mem_singleton.mp new
          rfl
      · refine .sending earlier last (sent + length) isLast same ?_ room
          inside held
        have stream :
            stream
                { self with
                  tunLoop :=
                    .sending (.socket 0)
                      (frameBytes aead key last.bytes last.draw).length
                      (sent + length)
                  sent :=
                    self.sent ++
                      [(.socket 0, buffer.slice sent length)] } =
              self.stream ++ buffer.slice sent length := by
          simp [ClientLoops.stream]
        rw [stream, written, ← part, List.take_add, List.append_assoc]

/-- The frame has been sent, and the loop reads again. -/
theorem Streams.resumeSend
    (streams :
      Streams aead key settings platform mtu reads packets buffer self)
    {peer : Peer Endpoint}
    {size : Nat}
    (sending : self.tunLoop = .sending peer size size) :
    Streams aead key settings platform mtu reads packets buffer
      { self with tunLoop := .reading } := by
  have stage := streams.stage
  rw [sending] at stage
  cases stage with
  | sending earlier last _ isLast same written _ _ _ =>
      refine { streams with stage := .reading same ?_ }
      have stream :
          stream { self with tunLoop := .reading } = self.stream :=
        rfl
      rw [stream, written, List.take_length, isLast, sentFrames,
        sentFrames, List.map_append, wireBytes_append]
      simp [wireBytes, WireFrame.sent]

theorem Streams.step
    [DecidableEq Endpoint]
    {event : ClientLoopsEvent Endpoint}
    (maximum : mtu ≤ MAX_BUFFSIZE)
    (streams :
      Streams aead key settings platform mtu reads packets buffer self)
    (allowed : ReadsPackets platform mtu event)
    (performed : self.step aead event = some next) :
    ∃ packets buffer,
      Streams aead key settings platform mtu
        (reads ++ packetRead platform event) packets buffer next := by
  unfold ClientLoops.step at performed
  split at performed
  · cases performed
  · split at performed
    · unfold stepTunLoop at performed
      split at performed
      · rename_i bytes atRead _
        obtain rfl := Option.some.inj performed
        exact ⟨packets, streams.tunRead maximum atRead allowed⟩
      · rename_i bytes_read draw atResume _
        obtain rfl := Option.some.inj performed
        simpa only [packetRead, List.append_nil] using
          streams.resumeRead atResume draw
      · rename_i peer size sent length sending _
        split at performed
        · rename_i takes
          obtain rfl := Option.some.inj performed
          simp only [packetRead, List.append_nil]
          exact ⟨packets, buffer, streams.transmit sending takes⟩
        · cases performed
      · rename_i peer size sent sending _
        split at performed
        · rename_i whole
          obtain rfl := Option.some.inj performed
          subst whole
          simp only [packetRead, List.append_nil]
          exact ⟨packets, buffer, streams.resumeSend sending⟩
        · cases performed
      · cases performed
    · rename_i notTun
      have nothing : packetRead platform event = [] := by
        cases event with
        | tunRead bytes => exact (notTun rfl).elim
        | _ => rfl
      rw [nothing, List.append_nil]
      exact ⟨packets, buffer,
        streams.congr (stepReceiveLoop_tunPart performed)⟩

theorem Streams.start
    (aead : Aead 16)
    (conn_key : List UInt8)
    (settings : Client)
    (platform : Platform)
    (mtu : Nat) :
    ∃ buffer,
      Streams aead (AES256GCM.keyOf conn_key) settings platform mtu [] []
        buffer
        (start settings platform mtu
          (ClientTransport.connectTcp conn_key) :
          ClientLoops Endpoint) := by
  refine ⟨⟨fun _ => 0⟩, Streams.congr ?_ (receive_tunPart _)⟩
  exact
    { sameSettings := rfl
      samePlatform := rfl
      sameMtu := rfl
      noFault := rfl
      sendsOn := ⟨⟨_, rfl, rfl⟩, rfl, rfl⟩
      toSocket := fun _ member => by cases member
      sendable := fun _ member => by cases member
      stage := .reading rfl rfl }

/-- The loop has sent some of the packets that it let through, in order. -/
theorem TunStage.sent
    {stream : List UInt8}
    {pc : TunLoopPc Endpoint}
    (stage :
      TunStage aead key settings platform reads packets buffer stream pc) :
    packets.map OutgoingPacket.bytes <+: reads.filter settings.admits ∧
      stream <+: wireBytes (sentFrames aead key packets) ∧
      (pc = .reading →
        packets.map OutgoingPacket.bytes =
            reads.filter settings.admits ∧
          stream = wireBytes (sentFrames aead key packets)) := by
  cases stage with
  | reading same sent =>
      rw [same, sent]
      exact ⟨List.prefix_refl _, List.prefix_refl _,
        fun _ => ⟨rfl, rfl⟩⟩
  | read earlier packet isRead same sent _ _ _ =>
      rw [isRead, same, sent, List.filter_append]
      refine ⟨List.prefix_append _ _, List.prefix_refl _, ?_⟩
      intro atRead
      cases atRead
  | sending earlier last sent isLast same written _ _ _ =>
      refine ⟨same ▸ List.prefix_refl _, ?_, ?_⟩
      · rw [written, isLast, sentFrames, sentFrames, List.map_append,
          wireBytes_append, List.prefix_append_right_inj]
        simpa [wireBytes, WireFrame.sent] using List.take_prefix _ _
      · intro atRead
        cases atRead

end

/-- The packets behind the bytes on the connection, after any run. -/
theorem exists_sent_of_run
    [DecidableEq Endpoint]
    {aead : Aead 16}
    {conn_key : List UInt8}
    {settings : Client}
    {platform : Platform}
    {mtu : Nat}
    {events : List (ClientLoopsEvent Endpoint)}
    {final : ClientLoops Endpoint}
    (maximum : mtu ≤ MAX_BUFFSIZE)
    (allowed : ∀ event ∈ events, ReadsPackets platform mtu event)
    (reached :
      StepSystem.run (step aead)
          (start settings platform mtu
            (ClientTransport.connectTcp conn_key))
          events =
        some final) :
    ∃ packets buffer,
      Streams aead (AES256GCM.keyOf conn_key) settings platform mtu
        (events.flatMap (packetRead platform)) packets buffer final := by
  let Invariant
      (reads : List (List UInt8))
      (loops : ClientLoops Endpoint) : Prop :=
    ∃ packets buffer,
      Streams aead (AES256GCM.keyOf conn_key) settings platform mtu reads
        packets buffer loops
  obtain ⟨buffer, initially⟩ :=
    Streams.start aead conn_key settings platform mtu
  have invariant :
      Invariant ([] ++ events.flatMap (packetRead platform)) final := by
    refine StepSystem.run_invariant_observing ?_ ⟨[], buffer, initially⟩
      (StepSystem.along_of_forall allowed) (List.prefix_refl _) reached
    rintro past loops event next ⟨packets, buffer, streams⟩ allowed _
      performed
    exact streams.step maximum allowed performed
  exact invariant

end ClientLoops

end Dsvpn
