import Dsvpn.ClientDuplex
import Dsvpn.FirstFrame
import Dsvpn.SocketFrames

namespace Dsvpn

open ProtocolHeader
open IpPacket

/-!
# From the server's TUN device to the client's, over TCP

The client's receive loop reads the stream of its socket one frame at a time
and writes each packet to the device before it reads on.  So the device gets,
in order, the packets that the server read for this socket.
-/

variable {Endpoint : Type}

/-- A whole packet as the TUN device of the platform takes it. -/
def devicePacket
    (platform : Platform)
    (packet : List UInt8) : List UInt8 :=
  match platform with
  | .linux => packet
  | .apple =>
      if version packet = 4 then
        word32 33554432 ++ packet
      else
        word32 503316480 ++ packet

namespace TcpReceiver

variable
    {aead : Aead 16}
    {self next : TcpReceiver}

/-- A call of `Receive` goes on, or returns what is behind the header. -/
inductive CallStep (receiver next : TcpReceiver) : Prop where
  | goesOn :
      next.pc ≠ .idle →
      next.returned = receiver.returned →
      CallStep receiver next
  | returns (value : Int) (error : Option ErrorCode) :
      next.pc = .idle →
      next.returned =
        receiver.returned ++
          [⟨value, error,
            next.connection.conn_recv_buffer.slice Size value.toNat⟩] →
      CallStep receiver next
  | crashes :
      next.fault ≠ none →
      CallStep receiver next

theorem callStep_arrive
    {pc : ReadOp → ReceivePc}
    (active : ∀ op, pc op ≠ .idle)
    {op : ReadOp}
    {piece : List UInt8}
    (arrived : self.arrive pc op piece = some next) :
    CallStep self next := by
  unfold TcpReceiver.arrive at arrived
  split at arrived
  · split at arrived
    · obtain rfl := Option.some.inj arrived
      exact .crashes (by simp [TcpReceiver.setFault])
    · obtain rfl := Option.some.inj arrived
      exact .goesOn (active _) rfl
  · cases arrived

theorem callStep_resumeHeader
    (bytes_read : Nat)
    (error : Option ErrorCode) :
    CallStep self (self.resumeHeader aead bytes_read error) := by
  unfold TcpReceiver.resumeHeader
  split
  · exact .returns _ _ rfl rfl
  · split
    · exact .returns _ _ rfl rfl
    · simp only
      split
      · exact .returns _ _ rfl rfl
      · exact .goesOn (by simp) rfl

theorem callStep_resumePayload
    (bytes_read : Nat)
    (error : Option ErrorCode) :
    CallStep self (self.resumePayload aead bytes_read error) := by
  unfold TcpReceiver.resumePayload
  split
  · exact .returns _ _ rfl rfl
  · split
    · exact .crashes (by simp [TcpReceiver.setFault])
    · exact .returns _ _ rfl rfl

theorem step_callStep
    {event : ReceiveEvent}
    (active : self.pc ≠ .idle)
    (performed : TcpReceiver.step aead self event = some next) :
    CallStep self next := by
  unfold TcpReceiver.step at performed
  split at performed
  · cases performed
  · split at performed
    · rename_i idle
      exact (active idle).elim
    · exact callStep_arrive (by simp) performed
    · exact callStep_arrive (by simp) performed
    · obtain rfl := Option.some.inj performed
      exact .goesOn (by simp) rfl
    · obtain rfl := Option.some.inj performed
      exact .goesOn (by simp) rfl
    · obtain ⟨error, _, rfl⟩ := Option.map_eq_some_iff.mp performed
      exact callStep_resumeHeader _ error
    · obtain ⟨error, _, rfl⟩ := Option.map_eq_some_iff.mp performed
      exact callStep_resumePayload _ error
    · cases performed

section

variable
    {key : List UInt8}
    {frames : List WireFrame}
    {past : List UInt8}

/-- Sending does not move the receiver. -/
theorem Reads.congr
    (reads : Reads aead key frames past self)
    (same : next.receivePart = self.receivePart) :
    Reads aead key frames past next := by
  obtain ⟨sameConnection, samePc, sameReturned, sameFault⟩ :=
    TcpReceiver.mk.inj same
  obtain ⟨members, _, socket, _⟩ := TCPConnection.mk.inj sameConnection
  obtain ⟨protocol, _, buffer⟩ := IConnection.mk.inj members
  exact
    { noFault := sameFault.trans reads.noFault
      sameKey := (congrArg Protocol.key protocol).trans reads.sameKey
      connected := by
        rw [show next.connection.conn_socket =
          self.connection.conn_socket from socket]
        exact reads.connected
      position := by
        rw [show next.connection.conn_recv_buffer =
            self.connection.conn_recv_buffer from buffer,
          show next.pc = self.pc from samePc,
          show next.returned = self.returned from sameReturned]
        exact reads.position }

/-- Between two calls the bytes in the buffer are free for other use. -/
theorem Reads.setBuffer
    (reads : Reads aead key frames past self)
    (idle : self.pc = .idle)
    (buffer : PacketBuffer) :
    Reads aead key frames past
      { self with
        connection :=
          { self.connection with conn_recv_buffer := buffer } } := by
  obtain ⟨complete, remaining, split, inStream, returned⟩ :=
    reads.position
  refine
    { noFault := reads.noFault
      sameKey := reads.sameKey
      connected := reads.connected
      position := ⟨complete, remaining, split, ?_, returned⟩ }
  have consumed := inStream.consumed
  rw [idle] at consumed
  simp only [idle]
  exact ⟨consumed, trivial⟩

/-- What `Receive` returns for the frames that were sent. -/
theorem delivery_sentFrames
    (packets : List OutgoingPacket) :
    (sentFrames aead key packets).map (WireFrame.delivery aead key) =
      packets.map OutgoingPacket.delivery := by
  rw [sentFrames, List.map_map]
  apply List.map_congr_left
  intro packet _
  simp only [Function.comp_apply, WireFrame.delivery,
    if_pos WireFrame.sent_payloadIntact]
  rfl

/-- What was returned is a beginning of the packets that were sent. -/
theorem Reads.returned_prefix
    {packets : List OutgoingPacket}
    (reads :
      Reads aead key (sentFrames aead key packets) past self) :
    self.returned <+: packets.map OutgoingPacket.delivery := by
  obtain ⟨complete, remaining, split, _, returned⟩ := reads.position
  rw [← delivery_sentFrames, split, List.map_append, returned]
  exact List.prefix_append _ _

end

end TcpReceiver

/-- What the network brings the receive loop of the server's stream. -/
def ClientLoopsEvent.serverBytes :
    ClientLoopsEvent Endpoint → List UInt8
  | .receive (.tcp event) => event.bytes
  | _ => []

/-- The connection is not broken off. -/
def ClientLoopsEvent.Unbroken : ClientLoopsEvent Endpoint → Prop
  | .receive (.tcp event) => event.Regular
  | _ => True

instance (event : ClientLoopsEvent Endpoint) :
    Decidable event.Unbroken :=
  match event with
  | .receive (.tcp event) => inferInstanceAs (Decidable event.Regular)
  | .receive (.udp _) | .tunRead _ | .resumeRead _ | .transmit _
  | .resumeSend | .tunWrite | .resumeWrite =>
      inferInstanceAs (Decidable True)

namespace ClientLoops

/-- What the device has been given of the packets that were returned. -/
inductive DeviceStage
    (platform : Platform)
    (receiver : TcpReceiver) :
    ClientReceiveLoopPc → List (List UInt8) → Prop where
  | receiving :
      receiver.pc ≠ .idle →
      DeviceStage platform receiver .receiving
        (receiver.returned.map fun result =>
          devicePacket platform result.packet)
  | writing
      (earlier : List Returned)
      (packet : List UInt8) :
      receiver.pc = .idle →
      receiver.returned =
        earlier ++ [⟨packet.length, none, packet⟩] →
      Size + packet.length ≤ 2000 →
      receiver.connection.conn_recv_buffer.slice
          (Size - TUN_PACKET_HL platform)
          (packet.length + TUN_PACKET_HL platform) =
        devicePacket platform packet →
      DeviceStage platform receiver (.writing packet.length)
        (earlier.map fun result => devicePacket platform result.packet)
  | written :
      receiver.pc = .idle →
      DeviceStage platform receiver .written
        (receiver.returned.map fun result =>
          devicePacket platform result.packet)

/-- The receive loop has been given the bytes `past` of the frames. -/
structure Receives
    (aead : Aead 16)
    (key : List UInt8)
    (platform : Platform)
    (packets : List OutgoingPacket)
    (past : List UInt8)
    (loops : ClientLoops Endpoint) : Prop where
  samePlatform : loops.platform = platform
  reading :
    ∃ receiver,
      loops.transport = .tcp receiver ∧
        TcpReceiver.Reads aead key (sentFrames aead key packets) past
          receiver ∧
        DeviceStage platform receiver loops.receiveLoop loops.tunWritten

/-- A packet behind the header, with what the device wants before it. -/
theorem devicePacket_linux
    {buffer : PacketBuffer}
    {packet : List UInt8}
    (held : buffer.slice Size packet.length = packet) :
    buffer.slice (Size - TUN_PACKET_HL .linux)
        (packet.length + TUN_PACKET_HL .linux) =
      devicePacket .linux packet :=
  held

theorem devicePacket_apple
    {buffer : PacketBuffer}
    {packet : List UInt8}
    (held : buffer.slice Size packet.length = packet)
    (complete : Complete packet) :
    (buffer.overwrite (Size - TUN_PACKET_HL .apple)
        (Client.deviceWord buffer)).slice
          (Size - TUN_PACKET_HL .apple)
          (packet.length + TUN_PACKET_HL .apple) =
      devicePacket .apple packet := by
  have minimum := complete.minimum
  have same : ip_v buffer = version packet :=
    ip_v_packet held (by omega)
  obtain ⟨length, word⟩ :
      (Client.deviceWord buffer).length = 4 ∧
        Client.deviceWord buffer ++ packet =
          devicePacket .apple packet := by
    unfold Client.deviceWord devicePacket
    rcases complete with ⟨isFour, _⟩ | ⟨isSix, _⟩
    · simp [same, isFour]
    · simp [same, isSix]
  have behind :=
    buffer.slice_overwrite_before
      (show Size - TUN_PACKET_HL .apple +
          (Client.deviceWord buffer).length ≤ 2000 by
        rw [length]
        decide)
      packet.length
  rw [length, show Size - TUN_PACKET_HL .apple + 4 = Size from rfl, held,
    word] at behind
  rw [Nat.add_comm]
  exact behind

section

variable
    {aead : Aead 16}
    {key : List UInt8}
    {platform : Platform}
    {packets : List OutgoingPacket}
    {past : List UInt8}
    {self next : ClientLoops Endpoint}

/-- What the TUN loop does leaves the receive loop alone. -/
theorem Receives.congr
    (receives : Receives aead key platform packets past self)
    (same : next.receivePart = self.receivePart) :
    Receives aead key platform packets past next := by
  obtain ⟨_, samePlatform, _, sameTransport, _, _, sameLoop, sameWritten,
      _⟩ := ClientLoops.mk.inj same
  obtain ⟨receiver, isTcp, reads, stage⟩ := receives.reading
  rw [isTcp] at sameTransport
  refine ⟨samePlatform.trans receives.samePlatform, ?_⟩
  cases transport : next.transport with
  | udp receiver =>
      rw [transport] at sameTransport
      cases sameTransport
  | tcp other =>
      rw [transport] at sameTransport
      have sameReceiver := ClientTransport.tcp.inj sameTransport
      refine ⟨other, rfl, reads.congr sameReceiver, ?_⟩
      obtain ⟨sameConnection, samePc, sameReturned, _⟩ :=
        TcpReceiver.mk.inj sameReceiver
      obtain ⟨members, _⟩ := TCPConnection.mk.inj sameConnection
      obtain ⟨_, _, sameBuffer⟩ := IConnection.mk.inj members
      rw [show next.receiveLoop = self.receiveLoop from sameLoop,
        show next.tunWritten = self.tunWritten from sameWritten]
      generalize self.receiveLoop = loop at stage ⊢
      generalize self.tunWritten = written at stage ⊢
      cases stage with
      | receiving active =>
          rw [← show other.returned = receiver.returned from sameReturned]
          exact .receiving (samePc ▸ active)
      | writing earlier packet idle returned inside held =>
          refine .writing earlier packet (samePc.trans idle)
            (sameReturned.trans returned) inside ?_
          rw [show other.connection.conn_recv_buffer =
            receiver.connection.conn_recv_buffer from sameBuffer]
          exact held
      | written idle =>
          rw [← show other.returned = receiver.returned from sameReturned]
          exact .written (samePc.trans idle)

/-- The last packet that was returned goes to the device next. -/
theorem Receives.writeTun
    (samePlatform : self.platform = platform)
    {receiver : TcpReceiver}
    (isTcp : self.transport = .tcp receiver)
    (reads :
      TcpReceiver.Reads aead key (sentFrames aead key packets) past
        receiver)
    (idle : receiver.pc = .idle)
    {earlier : List Returned}
    {packet : List UInt8}
    (complete : Complete packet)
    (fits : packet.length ≤ MAX_BUFFSIZE)
    (returned :
      receiver.returned = earlier ++ [⟨packet.length, none, packet⟩])
    (held :
      receiver.connection.conn_recv_buffer.slice Size packet.length =
        packet)
    (written :
      self.tunWritten =
        earlier.map fun result => devicePacket platform result.packet) :
    Receives aead key platform packets past
      (self.writeTun packet.length) := by
  have inside : Size + packet.length ≤ 2000 := by
    simp only [Size, MAX_BUFFSIZE] at *
    omega
  unfold ClientLoops.writeTun
  cases platform with
  | linux =>
      simp only [samePlatform]
      refine ⟨rfl, receiver, isTcp, reads, ?_⟩
      rw [written]
      exact .writing earlier packet idle returned inside
        (devicePacket_linux held)
  | apple =>
      simp only [samePlatform, isTcp]
      refine ⟨rfl, _, rfl, reads.setBuffer idle _, ?_⟩
      rw [written]
      exact .writing earlier packet idle returned inside
        (devicePacket_apple held complete)

/-- `Receive` goes on, or the loop goes on with what it returned. -/
theorem Receives.received
    (sendable :
      ∀ packet ∈ packets, packet.Sendable ∧ Complete packet.bytes)
    (samePlatform : self.platform = platform)
    (receiving : self.receiveLoop = .receiving)
    {receiver after : TcpReceiver}
    (written :
      self.tunWritten =
        receiver.returned.map fun result =>
          devicePacket platform result.packet)
    (reads :
      TcpReceiver.Reads aead key (sentFrames aead key packets) past after)
    (step : TcpReceiver.CallStep receiver after) :
    Receives aead key platform packets past
      (self.received (.tcp after)) := by
  unfold ClientLoops.received
  cases step with
  | goesOn active same =>
      have suspended :
          (ClientTransport.tcp after : ClientTransport Endpoint).idle =
            false := by
        simp [ClientTransport.idle, active]
      simp only [suspended]
      refine ⟨samePlatform, after, rfl, reads, ?_⟩
      simp only [receiving, written, ← same]
      exact .receiving active
  | crashes crashed => exact (crashed reads.noFault).elim
  | returns value error idle same =>
      have isPrefix := reads.returned_prefix
      rw [same] at isPrefix
      obtain ⟨packet, member, isDelivery⟩ :=
        List.mem_map.mp
          (isPrefix.subset (List.mem_append_right _ List.mem_cons_self))
      obtain ⟨rfl, rfl, held⟩ := Returned.mk.inj isDelivery
      obtain ⟨sent, complete⟩ := sendable packet member
      rw [Int.toNat_natCast] at held
      have hasReturned :
          (ClientTransport.tcp after : ClientTransport Endpoint).idle =
            true := by
        simp [ClientTransport.idle, idle]
      have last :
          (ClientTransport.tcp after :
              ClientTransport Endpoint).returned.getLast? =
            some ⟨packet.bytes.length, none, packet.bytes⟩ := by
        simp [ClientTransport.returned, same, ← held]
      have writes :
          Client.tunWrite ⟨packet.bytes.length, none, packet.bytes⟩ =
            some packet.bytes := by
        have nonempty := sent.1
        simp only [Client.tunWrite, Option.isSome_none,
          Bool.false_eq_true, if_false]
        rw [if_neg (by omega), if_neg (by omega)]
      simp only [hasReturned, last, Option.isSome_none,
        Bool.false_eq_true, if_false, writes, Int.toNat_natCast]
      let loops : ClientLoops Endpoint :=
        { self with transport := .tcp after }
      have isTcp : loops.transport = .tcp after := rfl
      have stillSame : loops.platform = platform := samePlatform
      refine Receives.writeTun stillSame isTcp reads idle complete
        sent.2 ?_ held.symm written
      rw [same, Int.toNat_natCast, ← held]

/-- The loop calls `Receive` again. -/
theorem Receives.receive
    (samePlatform : self.platform = platform)
    {receiver : TcpReceiver}
    (isTcp : self.transport = .tcp receiver)
    (reads :
      TcpReceiver.Reads aead key (sentFrames aead key packets) past
        receiver)
    (idle : receiver.pc = .idle)
    (written :
      self.tunWritten =
        receiver.returned.map fun result =>
          devicePacket platform result.packet) :
    Receives aead key platform packets past self.receive := by
  obtain ⟨socket, connected⟩ :=
    Option.ne_none_iff_exists'.mp reads.connected
  have calls :
      receiver.Receive =
        { receiver with pc := .readHeader (ReadOp.start 0 Size) } := by
    unfold TcpReceiver.Receive
    rw [connected]
  have called := reads.call idle
  rw [calls] at called
  unfold ClientLoops.receive
  simp only [isTcp, ClientTransport.Receive, calls]
  refine ⟨samePlatform, _, rfl, called, ?_⟩
  rw [written]
  exact .receiving (by simp)

/-- The device takes the packet. -/
theorem Receives.tunWrite
    (samePlatform : self.platform = platform)
    {receiver : TcpReceiver}
    (isTcp : self.transport = .tcp receiver)
    (reads :
      TcpReceiver.Reads aead key (sentFrames aead key packets) past
        receiver)
    (idle : receiver.pc = .idle)
    {earlier : List Returned}
    {packet : List UInt8}
    (inside : Size + packet.length ≤ 2000)
    (returned :
      receiver.returned = earlier ++ [⟨packet.length, none, packet⟩])
    (held :
      receiver.connection.conn_recv_buffer.slice
          (Size - TUN_PACKET_HL platform)
          (packet.length + TUN_PACKET_HL platform) =
        devicePacket platform packet)
    (written :
      self.tunWritten =
        earlier.map fun result => devicePacket platform result.packet) :
    Receives aead key platform packets past
        (self.tunWrite packet.length) ∧
      (self.tunWrite packet.length).transport = self.transport ∧
      (self.tunWrite packet.length).receiveLoop = .written ∧
      (self.tunWrite packet.length).fault = self.fault := by
  have small := TUN_PACKET_HL_le platform
  have inArray :
      Size - TUN_PACKET_HL platform +
          (packet.length + TUN_PACKET_HL platform) ≤
        2000 := by
    simp only [Size] at *
    omega
  have takes :
      self.tunWrite packet.length =
        { self with
          receiveLoop := .written
          tunWritten :=
            self.tunWritten ++ [devicePacket platform packet] } := by
    unfold ClientLoops.tunWrite
    simp only [isTcp, samePlatform, ClientTransport.connection,
      Connection.members, Buffer.load?_eq_some _ inArray, held]
  rw [takes]
  refine ⟨⟨samePlatform, receiver, isTcp, reads, ?_⟩, rfl, rfl, rfl⟩
  have all :
      self.tunWritten ++ [devicePacket platform packet] =
        receiver.returned.map fun result =>
          devicePacket platform result.packet := by
    rw [written, returned, List.map_append]
    rfl
  simp only [all]
  exact .written idle

/-- The frames that `SendTo` wrote are as the receiver wants them. -/
theorem sentFrames_readable
    (aead : Aead 16)
    (key : List UInt8)
    (sendable :
      ∀ packet ∈ packets, packet.Sendable ∧ Complete packet.bytes) :
    (∀ frame ∈ sentFrames aead key packets,
      frame.HeaderIntact aead key) ∧
      ∀ frame ∈ sentFrames aead key packets,
        frame.AlterationRejected aead key := by
  have intact :
      ∀ frame ∈ sentFrames aead key packets,
        frame.HeaderIntact aead key ∧ frame.PayloadIntact aead key :=
    sentFrames_intact fun packet member => (sendable packet member).1
  exact
    ⟨fun frame member => (intact frame member).1,
      fun frame member altered => (altered (intact frame member).2).elim⟩

theorem Receives.step
    [DecidableEq Endpoint]
    {event : ClientLoopsEvent Endpoint}
    (correct : aead.Correct)
    (sendable :
      ∀ packet ∈ packets, packet.Sendable ∧ Complete packet.bytes)
    (receives : Receives aead key platform packets past self)
    (unbroken : event.Unbroken)
    (whole :
      past ++ event.serverBytes <+:
        wireBytes (sentFrames aead key packets))
    (performed : self.step aead event = some next) :
    Receives aead key platform packets (past ++ event.serverBytes)
      next := by
  obtain ⟨intact, rejected⟩ := sentFrames_readable aead key sendable
  obtain ⟨_, _, stepped⟩ := step_eq_some.mp performed
  split at stepped
  · rename_i isTun
    have nothing : event.serverBytes = [] := by
      cases event with
      | receive event => cases isTun
      | _ => rfl
    rw [nothing, List.append_nil]
    exact receives.congr (stepTunLoop_receivePart stepped)
  · obtain ⟨receiver, isTcp, reads, stage⟩ := receives.reading
    unfold stepReceiveLoop at stepped
    split at stepped
    · rename_i event receiving _
      rw [isTcp] at stepped
      obtain ⟨transport, received, rfl⟩ :=
        Option.map_eq_some_iff.mp stepped
      cases event with
      | udp event => cases received
      | tcp event =>
          obtain ⟨after, steps, rfl⟩ :=
            Option.map_eq_some_iff.mp received
          have readsOn :=
            reads.step correct intact rejected unbroken whole steps
          rw [receiving] at stage
          generalize isWritten : self.tunWritten = written at stage
          cases stage with
          | receiving active =>
              exact .received sendable receives.samePlatform receiving
                isWritten readsOn
                (TcpReceiver.step_callStep active steps)
    · rename_i bytes_read writing _
      obtain rfl := Option.some.inj stepped
      rw [writing] at stage
      generalize isWritten : self.tunWritten = written at stage
      cases stage with
      | writing earlier packet idle returned inside held =>
          simp only [ClientLoopsEvent.serverBytes, List.append_nil]
          exact (Receives.tunWrite receives.samePlatform isTcp reads idle
            inside returned held isWritten).1
    · rename_i wrote _
      obtain rfl := Option.some.inj stepped
      rw [wrote] at stage
      generalize isWritten : self.tunWritten = written at stage
      cases stage with
      | written idle =>
          simp only [ClientLoopsEvent.serverBytes, List.append_nil]
          exact .receive receives.samePlatform isTcp reads idle isWritten
    · cases stepped

/-- The device has been given a beginning of the packets. -/
theorem Receives.tunWritten_prefix
    (receives : Receives aead key platform packets past self) :
    self.tunWritten <+:
      packets.map fun packet => devicePacket platform packet.bytes := by
  obtain ⟨receiver, _, reads, stage⟩ := receives.reading
  have returned :
      (receiver.returned.map fun result =>
          devicePacket platform result.packet) <+:
        packets.map fun packet => devicePacket platform packet.bytes := by
    have mapped :=
      reads.returned_prefix.map
        (fun result => devicePacket platform result.packet)
    rw [List.map_map] at mapped
    exact mapped
  generalize self.tunWritten = written at stage ⊢
  generalize self.receiveLoop = loop at stage
  cases stage with
  | receiving _ => exact returned
  | writing earlier packet _ same =>
      rw [same, List.map_append] at returned
      exact (List.prefix_append _ _).trans returned
  | written _ => exact returned

/-- What the receive loop does when everything has arrived. -/
def Waits (self : ClientLoops Endpoint) : Prop :=
  self.receiveLoop = .receiving ∧
    ∃ receiver, self.transport = .tcp receiver ∧ receiver.pc.phase.Quiet

/-- After the whole stream the device has been given every packet. -/
theorem Receives.tunWritten_eq
    (sendable :
      ∀ packet ∈ packets, packet.Sendable ∧ Complete packet.bytes)
    (receives :
      Receives aead key platform packets
        (wireBytes (sentFrames aead key packets)) self)
    (waits : self.Waits) :
    self.tunWritten =
      packets.map fun packet => devicePacket platform packet.bytes := by
  obtain ⟨intact, _⟩ := sentFrames_readable aead key sendable
  obtain ⟨receiver, isTcp, reads, stage⟩ := receives.reading
  obtain ⟨receiving, other, alsoTcp, quiet⟩ := waits
  obtain rfl : receiver = other :=
    ClientTransport.tcp.inj (isTcp.symm.trans alsoTcp)
  have returned := reads.returned_eq intact quiet
  rw [receiving] at stage
  generalize self.tunWritten = written at stage ⊢
  cases stage with
  | receiving _ =>
      rw [returned, TcpReceiver.delivery_sentFrames, List.map_map]
      rfl

/-! ## The stream can be received to its end -/

/-- Turns that the receive loop has left with the last packet. -/
def due : ClientReceiveLoopPc → Nat
  | .receiving => 0
  | .writing _ => 2
  | .written => 1
  | .ended => 0

def loopWork
    (frames : List WireFrame)
    (past : List UInt8)
    (self : ClientLoops Endpoint) : Nat :=
  match self.transport with
  | .udp _ => due self.receiveLoop
  | .tcp receiver =>
      3 * workLeft frames past receiver.pc.phase + due self.receiveLoop

/-- The turns of the receive loop on a stream that does not break. -/
def ReceivesOn (event : ClientLoopsEvent Endpoint) : Prop :=
  event.isTunLoop = false ∧ event.Unbroken

/-- A new call of `Receive` waits for its header. -/
theorem receive_work
    {receiver : TcpReceiver}
    (isTcp : self.transport = .tcp receiver)
    (connected : receiver.connection.conn_socket ≠ none)
    (frames : List WireFrame) :
    loopWork frames past self.receive =
      9 * ((wireBytes frames).length - past.length) := by
  obtain ⟨socket, connected⟩ := Option.ne_none_iff_exists'.mp connected
  simp only [loopWork, ClientLoops.receive, isTcp,
    ClientTransport.Receive, TcpReceiver.Receive, connected, workLeft,
    ReceivePc.phase, ReadPhase.due, ReadOp.start, due, if_true]
  omega

/-- Going on with a packet takes two turns at most. -/
theorem received_work
    (receiving : self.receiveLoop = .receiving)
    {receiver : TcpReceiver}
    (connected : receiver.connection.conn_socket ≠ none)
    (frames : List WireFrame) :
    loopWork frames past (self.received (.tcp receiver)) ≤
      3 * workLeft frames past receiver.pc.phase + 2 := by
  unfold ClientLoops.received
  split
  · split
    · simp [loopWork, due]
    · split
      · rw [receive_work rfl connected]
        simp only [workLeft]
        omega
      · simp only [ClientLoops.writeTun]
        split
        · simp [loopWork, due]
        · simp [loopWork, due, ClientTransport.setMembers]
  · simp [loopWork, receiving, due]

theorem Receives.progresses
    [DecidableEq Endpoint]
    (correct : aead.Correct)
    (sendable :
      ∀ packet ∈ packets, packet.Sendable ∧ Complete packet.bytes)
    (receives : Receives aead key platform packets past self)
    (noFault : self.fault = none)
    (sofar : past <+: wireBytes (sentFrames aead key packets))
    (unfinished :
      ¬ (past = wireBytes (sentFrames aead key packets) ∧ self.Waits)) :
    StepSystem.Progresses (fun self => self.step aead) ReceivesOn
      ClientLoopsEvent.serverBytes
      (wireBytes (sentFrames aead key packets))
      (loopWork (sentFrames aead key packets)) past self := by
  obtain ⟨intact, rejected⟩ := sentFrames_readable aead key sendable
  obtain ⟨receiver, isTcp, reads, stage⟩ := receives.reading
  have running : self.transport.fault = none := by
    rw [isTcp]
    exact reads.noFault
  have performs
      {event : ClientLoopsEvent Endpoint}
      {next : ClientLoops Endpoint}
      (turn : event.isTunLoop = false)
      (stepped : self.stepReceiveLoop aead event = some next) :
      self.step aead event = some next := by
    refine step_eq_some.mpr ⟨noFault, running, ?_⟩
    rw [turn, if_neg Bool.false_ne_true]
    exact stepped
  generalize isWritten : self.tunWritten = written at stage
  generalize isLoop : self.receiveLoop = loop at stage
  cases stage with
  | receiving active =>
      have waiting :
          ¬ (past = wireBytes (sentFrames aead key packets) ∧
            receiver.pc.phase.Quiet) :=
        fun ⟨all, quiet⟩ =>
          unfinished ⟨all, isLoop, receiver, isTcp, quiet⟩
      obtain ⟨event, after, regular, whole, steps, less⟩ :=
        reads.progresses correct intact rejected sofar waiting
      have connected :=
        (reads.step correct intact rejected regular whole steps).connected
      refine ⟨.receive (.tcp event), self.received (.tcp after),
        ⟨rfl, regular⟩, whole, performs rfl ?_, ?_⟩
      · unfold stepReceiveLoop
        simp only [isLoop, isTcp, ClientTransport.step, steps,
          Option.map_some]
      · have before :
            loopWork (sentFrames aead key packets) past self =
              3 * workLeft (sentFrames aead key packets) past
                receiver.pc.phase := by
          simp [loopWork, isTcp, isLoop, due]
        have less :
            workLeft (sentFrames aead key packets) (past ++ event.bytes)
                after.pc.phase <
              workLeft (sentFrames aead key packets) past
                receiver.pc.phase :=
          less
        have bound :
            loopWork (sentFrames aead key packets) (past ++ event.bytes)
                (self.received (.tcp after)) ≤
              3 * workLeft (sentFrames aead key packets)
                (past ++ event.bytes) after.pc.phase + 2 :=
          received_work isLoop connected _
        rw [before]
        exact Nat.lt_of_le_of_lt bound (by omega)
  | writing earlier packet idle returned inside held =>
      obtain ⟨_, sameTransport, wrote, _⟩ :=
        Receives.tunWrite receives.samePlatform isTcp reads idle inside
          returned held isWritten
      refine ⟨.tunWrite, self.tunWrite packet.length, ⟨rfl, trivial⟩, ?_,
        performs rfl ?_, ?_⟩
      · simpa [ClientLoopsEvent.serverBytes] using sofar
      · unfold stepReceiveLoop
        simp only [isLoop]
      · simp [loopWork, sameTransport, isTcp, wrote, isLoop, due,
          ClientLoopsEvent.serverBytes]
  | written idle =>
      refine ⟨.resumeWrite, self.receive, ⟨rfl, trivial⟩, ?_,
        performs rfl ?_, ?_⟩
      · simpa [ClientLoopsEvent.serverBytes] using sofar
      · unfold stepReceiveLoop
        simp only [isLoop]
      · rw [receive_work isTcp reads.connected]
        simp only [loopWork, isTcp, isLoop, due, workLeft, idle,
          ReceivePc.phase, ReadPhase.due, ClientLoopsEvent.serverBytes,
          List.append_nil]
        omega

/-- Wherever the receive loop is, the rest of the stream can be received. -/
theorem Receives.exists_run
    [DecidableEq Endpoint]
    (correct : aead.Correct)
    (sendable :
      ∀ packet ∈ packets, packet.Sendable ∧ Complete packet.bytes)
    (receives : Receives aead key platform packets past self)
    (noFault : self.fault = none)
    (sofar : past <+: wireBytes (sentFrames aead key packets)) :
    ∃ more finished,
      (∀ event ∈ more, ReceivesOn event) ∧
        past ++ more.flatMap ClientLoopsEvent.serverBytes =
          wireBytes (sentFrames aead key packets) ∧
        StepSystem.run (ClientLoops.step aead) self more =
          some finished ∧
        finished.tunWritten =
          packets.map fun packet =>
            devicePacket platform packet.bytes := by
  let Invariant
      (past : List UInt8)
      (loops : ClientLoops Endpoint) : Prop :=
    Receives aead key platform packets past loops ∧ loops.fault = none
  have preserved
      {past : List UInt8}
      {loops after : ClientLoops Endpoint}
      {event : ClientLoopsEvent Endpoint}
      (invariant : Invariant past loops)
      (allowed : ReceivesOn event)
      (whole :
        past ++ event.serverBytes <+:
          wireBytes (sentFrames aead key packets))
      (performed : loops.step aead event = some after) :
      Invariant (past ++ event.serverBytes) after := by
    obtain ⟨receives, noFault⟩ := invariant
    obtain ⟨_, _, stepped⟩ := step_eq_some.mp performed
    rw [allowed.1, if_neg Bool.false_ne_true] at stepped
    have same := stepReceiveLoop_tunPart stepped
    exact
      ⟨receives.step correct sendable allowed.2 whole performed,
        (congrArg ClientLoops.fault same).trans noFault⟩
  let Done (past : List UInt8) (loops : ClientLoops Endpoint) : Prop :=
    past = wireBytes (sentFrames aead key packets) ∧ loops.Waits
  have progress
      {past : List UInt8}
      {loops : ClientLoops Endpoint}
      (invariant : Invariant past loops)
      (sofar : past <+: wireBytes (sentFrames aead key packets))
      (unfinished : ¬ Done past loops) :=
    invariant.1.progresses correct sendable invariant.2 sofar unfinished
  have initially : Invariant past self := ⟨receives, noFault⟩
  obtain ⟨more, finished, allowed, whole, reached, all, waits⟩ :=
    StepSystem.exists_run_of_progress
      (loopWork (sentFrames aead key packets)) preserved progress
      initially sofar
  have atEnd :=
    StepSystem.run_invariant_observing preserved initially
      (StepSystem.along_of_forall allowed) whole reached
  rw [all] at atEnd
  exact ⟨more, finished, allowed, all, reached,
    atEnd.1.tunWritten_eq sendable waits⟩

theorem Receives.start
    (aead : Aead 16)
    (conn_key : List UInt8)
    (settings : Client)
    (platform : Platform)
    (mtu : Nat)
    (packets : List OutgoingPacket) :
    Receives aead (AES256GCM.keyOf conn_key) platform packets []
      (ClientLoops.start settings platform mtu
        (ClientTransport.connectTcp conn_key) :
        ClientLoops Endpoint) := by
  refine .receive rfl rfl ?_ rfl rfl
  exact
    { noFault := rfl
      sameKey := rfl
      connected := by simp [TcpReceiver.create, TCPConnection.Connect]
      position :=
        ⟨[], _, rfl,
          { consumed := by
              simp [wireBytes, ReadPhase.held, TcpReceiver.create,
                ReceivePc.phase]
            reading := trivial },
          rfl⟩ }

end

end ClientLoops

/--
The client's device has been given, in order, a beginning of the packets that
the server read for the socket.  While the server keeps the socket selected
and has written what it read, the rest of the stream can arrive, and then the
device has been given all of them.
-/
def DeliversFromSocket
    (aead : Aead 16)
    [DecidableEq Endpoint]
    (platform : Platform)
    (socket : SocketId)
    (packets : List (List UInt8))
    (server : TcpServer)
    (events : List (ClientLoopsEvent Endpoint))
    (client : ClientLoops Endpoint) : Prop :=
  client.tunWritten <+: packets.map (devicePacket platform) ∧
    (server.connection.selected = true →
      server.connection.conn_socket = some socket →
      server.sendLoop = .readTun →
      ∃ more finished,
        (∀ event ∈ more, ClientLoops.ReceivesOn event) ∧
          (events ++ more).flatMap ClientLoopsEvent.serverBytes =
            (server.socket socket).written ∧
          StepSystem.run (ClientLoops.step aead) client more =
            some finished ∧
          finished.tunWritten = packets.map (devicePacket platform))

/--
Over TCP, whichever connections the server accepts, swaps and loses meanwhile,
what a client is given on its socket comes out of its device in order.
-/
theorem downlink_in_order
    {Endpoint : Type}
    [DecidableEq Endpoint]
    (aead : Aead 16)
    (correct : aead.Correct)
    (conn_key : List UInt8)
    (addresses : Server)
    (serverEvents : List TcpServerEvent)
    (server : TcpServer)
    (serverReads : ∀ event ∈ serverEvents, TcpServer.ReadsPackets event)
    (serverReached :
      StepSystem.run (TcpServer.step aead)
          (TcpServer.create conn_key addresses) serverEvents =
        some server)
    (socket : SocketId)
    (settings : Client)
    (platform : Platform)
    (mtu : Nat)
    (maximum : mtu ≤ 1500)
    (clientEvents : List (ClientLoopsEvent Endpoint))
    (client : ClientLoops Endpoint)
    (clientReads :
      ∀ event ∈ clientEvents,
        ClientLoops.ReadsPackets platform mtu event)
    (unbroken : ∀ event ∈ clientEvents, event.Unbroken)
    (arrived :
      clientEvents.flatMap ClientLoopsEvent.serverBytes <+:
        (server.socket socket).written)
    (clientReached :
      StepSystem.run (ClientLoops.step aead)
          (ClientLoops.start settings platform mtu
            (ClientTransport.connectTcp conn_key))
          clientEvents =
        some client) :
    DeliversFromSocket aead platform socket
      ((StepSystem.outputs (TcpServer.step aead)
          (TcpServer.packetsTo socket)
          (TcpServer.create conn_key addresses) serverEvents).map
        OutgoingPacket.bytes)
      server clientEvents client := by
  have carries :=
    TcpServer.carries_of_run serverReads serverReached socket
  generalize
    StepSystem.outputs (TcpServer.step aead) (TcpServer.packetsTo socket)
      (TcpServer.create conn_key addresses) serverEvents =
    packets at carries ⊢
  have withinSent := arrived.trans carries.written_prefix
  have receives :=
    StepSystem.run_invariant_observing
      (fun receives unbroken whole performed =>
        ClientLoops.Receives.step correct carries.sendable receives
          unbroken whole performed)
      (ClientLoops.Receives.start aead conn_key settings platform mtu
        packets)
      (StepSystem.along_of_forall unbroken) withinSent clientReached
  have sameMap :
      (packets.map fun packet => devicePacket platform packet.bytes) =
        (packets.map OutgoingPacket.bytes).map
          (devicePacket platform) := by
    rw [List.map_map]
    rfl
  constructor
  · rw [← sameMap]
    exact receives.tunWritten_prefix
  · intro selected current reading
    obtain ⟨_, _, streams⟩ :=
      ClientLoops.exists_sent_of_run maximum clientReads clientReached
    obtain ⟨more, finished, allowed, all, reached, written⟩ :=
      receives.exists_run correct carries.sendable streams.noFault
        withinSent
    refine ⟨more, finished, allowed, ?_, reached, written.trans sameMap⟩
    rw [List.flatMap_append, carries.written_eq selected current reading]
    exact all

/-- The server writes the frame in two pieces. -/
def writesServerFrame : List TcpServerEvent :=
  TcpServer.connects 0 2 ++
    [.resume,
      .sendTo TcpServer.toClient (SendDraw.constant 1),
      .writeSome 100,
      .writeSome 222,
      .resumeSendTo]

/-- The client reads it in three. -/
def readsServerFrame : List (ClientLoopsEvent Nat) :=
  [.receive (.tcp (.arrive (ClientLoops.serverFrame.take 40))),
    .receive (.tcp (.arrive ((ClientLoops.serverFrame.drop 40).take 12))),
    .receive (.tcp .resume),
    .receive (.tcp (.arrive (ClientLoops.serverFrame.drop Size))),
    .receive (.tcp .resume),
    .tunWrite]

theorem downlink_in_order_serverFrame :
    ∃ server client,
      StepSystem.run (TcpServer.step Aead.checksumAead)
          TcpServer.exampleStart writesServerFrame =
        some server ∧
      StepSystem.run (ClientLoops.step Aead.checksumAead)
          (ClientLoops.start ⟨[10, 0, 0, 2], false⟩ .apple 1448
            (ClientTransport.connectTcp [49]))
          readsServerFrame =
        some client ∧
      client.tunWritten = [[0, 0, 0, 2] ++ TcpServer.toClient] ∧
      DeliversFromSocket Aead.checksumAead .apple 0
        [TcpServer.toClient] server readsServerFrame client := by
  have serverPerformed :
      (StepSystem.run (TcpServer.step Aead.checksumAead)
          TcpServer.exampleStart writesServerFrame).map
          (fun server => (server.socket 0).written) =
        some ClientLoops.serverFrame := by
    decide +kernel
  have clientPerformed :
      (StepSystem.run (ClientLoops.step Aead.checksumAead)
          (ClientLoops.start ⟨[10, 0, 0, 2], false⟩ .apple 1448
            (ClientTransport.connectTcp [49]))
          readsServerFrame).map ClientLoops.tunWritten =
        some [[0, 0, 0, 2] ++ TcpServer.toClient] := by
    decide +kernel
  have readFor :
      (StepSystem.outputs (TcpServer.step Aead.checksumAead)
          (TcpServer.packetsTo 0) TcpServer.exampleStart
          writesServerFrame).map OutgoingPacket.bytes =
        [TcpServer.toClient] := by
    decide +kernel
  obtain ⟨server, serverReached, written⟩ :=
    Option.map_eq_some_iff.mp serverPerformed
  obtain ⟨client, clientReached, tunWritten⟩ :=
    Option.map_eq_some_iff.mp clientPerformed
  have arrives :
      readsServerFrame.flatMap ClientLoopsEvent.serverBytes =
        ClientLoops.serverFrame := by
    decide +kernel
  refine ⟨server, client, serverReached, clientReached, tunWritten, ?_⟩
  rw [← readFor]
  exact downlink_in_order Aead.checksumAead Aead.checksumAead_correct [49]
    Server.exampleServer writesServerFrame server (by decide +kernel)
    serverReached 0 ⟨[10, 0, 0, 2], false⟩ .apple 1448 (by decide)
    readsServerFrame client (by decide +kernel) (by decide +kernel)
    (arrives.trans written.symm ▸ List.prefix_refl _) clientReached

end Dsvpn
