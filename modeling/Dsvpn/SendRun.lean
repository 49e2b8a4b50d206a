import Dsvpn.TcpConnection
import Dsvpn.UdpRoundTrip

namespace Dsvpn

open ProtocolHeader

/-!
# Runs of sends

Any number of connection objects, each UDP or TCP, send packets one after the
other through any of the four send operations.  A run records, for every
send, the frame handed to the transport and the encryption calls made for it.
A send that leaves an array or uses a null socket ends the run.
-/

inductive Connection (Endpoint : Type) where
  | udp : UDPConnection Endpoint → Connection Endpoint
  | tcp : TCPConnection → Connection Endpoint

inductive SendPath where
  | send
  | sendTo
  deriving Repr, DecidableEq

/-- One send: which object, which operation, the packet and the draw. -/
structure SendRequest where
  connection : Nat
  path : SendPath
  packet : List UInt8
  draw : SendDraw

/-- What one send did; `frame` is `none` for a dropped packet. -/
structure Sent where
  request : SendRequest
  frame : Option (List UInt8)
  calls : List Aead.Call

namespace Connection

variable {Endpoint : Type}

def protocol : Connection Endpoint → Protocol
  | .udp connection => connection.protocol
  | .tcp connection => connection.protocol

/-- The members both transports share. -/
def members : Connection Endpoint → IConnection
  | .udp connection => connection.toIConnection
  | .tcp connection => connection.toIConnection

/-- Read the packet into the TUN buffer and send it from there. -/
def send
    (aead : Aead 16)
    (self : Connection Endpoint)
    (request : SendRequest) :
    Option (Connection Endpoint × Option (List UInt8)) :=
  match self, request.path with
  | .udp connection, .send => do
      let ready ← connection.readTun request.packet
      let (after, datagram) ←
        ready.Send aead request.packet.length request.draw
      some (.udp after, some datagram.bytes)
  | .udp connection, .sendTo => do
      let ready ← connection.readTun request.packet
      let (after, datagram) ←
        ready.SendTo aead request.packet.length request.draw
      some (.udp after, some datagram.bytes)
  | .tcp connection, .send => do
      let ready ← connection.readTun request.packet
      match ready.Send aead request.packet.length request.draw with
      | .error _ => none
      | .ok (after, _, frame) => some (.tcp after, some frame)
  | .tcp connection, .sendTo => do
      let ready ← connection.readTun request.packet
      match ready.SendTo aead request.packet.length request.draw with
      | .error _ => none
      | .ok (after, writes) =>
          some (.tcp after, writes.map fun write => write.2)

end Connection

section Run

variable {Endpoint : Type}

/-- Perform the requests in order. -/
def sendRun
    (aead : Aead 16) :
    (Nat → Connection Endpoint) → List SendRequest → List Sent
  | _, [] =>
      []
  | connections, request :: rest =>
      let before := connections request.connection
      match before.send aead request with
      | none =>
          []
      | some (after, frame) =>
          { request := request
            frame := frame
            calls :=
              after.protocol.calls.drop before.protocol.calls.length } ::
            sendRun aead
              (Function.update connections request.connection after) rest

end Run

/--
A packet that was read into the TUN buffer and sealed is no longer than the
scratch array, and was sealed to its frame.
-/
theorem IConnection.encryptFrame_readTun
    {aead : Aead 16}
    {self ready result : IConnection}
    {packet frame : List UInt8}
    {draw : SendDraw}
    (staged : self.readTun packet = some ready)
    (sealed :
      ready.encryptFrame aead packet.length draw =
        some (result, frame)) :
    packet.length ≤ MAX_BUFFSIZE ∧
      frame = frameBytes aead self.protocol.key packet draw ∧
      result.protocol.key = self.protocol.key ∧
      result.protocol.calls =
        self.protocol.calls ++
          frameCalls self.protocol.key packet draw ∧
      result.conn_recv_buffer = self.conn_recv_buffer := by
  simp only [IConnection.readTun, Option.bind_eq_bind,
    Option.bind_eq_some_iff, Buffer.store?_eq_some_iff,
    Option.some.injEq] at staged
  obtain ⟨buffer, ⟨inside, written⟩, rfl⟩ := staged
  simp only [Size] at inside
  have fits : packet.length ≤ MAX_BUFFSIZE := by
    by_contra long
    have outside : MAX_BUFFSIZE < packet.length % 2 ^ 32 := by
      simp only [MAX_BUFFSIZE] at *
      omega
    rw [IConnection.encryptFrame_outOfBounds aead _ draw outside] at sealed
    cases sealed
  obtain ⟨expected, expectedSealed, key, calls, _, untouched⟩ :=
    IConnection.encryptFrame_spec aead
      { self with tun_recv_buffer := buffer }
      packet packet.length draw
      (by omega)
      (by rw [← written]; exact Buffer.slice_overwrite_same _ _ _ inside)
      fits
  rw [expectedSealed] at sealed
  obtain ⟨rfl, rfl⟩ := Prod.mk.inj (Option.some.inj sealed)
  exact ⟨fits, rfl, key, calls, untouched⟩

/-- What a send leaves behind: a dropped packet, or a sealed frame. -/
def SendEffect
    (aead : Aead 16)
    (before after : Protocol)
    (request : SendRequest)
    (frame : Option (List UInt8)) : Prop :=
  (frame = none ∧ after.calls = before.calls) ∨
    (request.packet.length ≤ MAX_BUFFSIZE ∧
      frame =
        some (frameBytes aead before.key request.packet request.draw) ∧
      after.calls =
        before.calls ++
          frameCalls before.key request.packet request.draw)

namespace TCPConnection

theorem Send_encryptFrame
    {aead : Aead 16}
    {self after : TCPConnection}
    {size : Nat}
    {draw : SendDraw}
    {socket : SocketId}
    {frame : List UInt8}
    (sends : self.Send aead size draw = .ok (after, socket, frame)) :
    ∃ connection,
      self.toIConnection.encryptFrame aead size draw =
          some (connection, frame) ∧
        after = { self with toIConnection := connection } := by
  unfold Send at sends
  cases sealed : self.toIConnection.encryptFrame aead size draw with
  | none =>
      simp [sealed] at sends
  | some output =>
      obtain ⟨connection, bytes⟩ := output
      cases pointer : self.conn_socket with
      | none =>
          simp [sealed, pointer] at sends
      | some current =>
          simp only [sealed, pointer, Except.ok.injEq,
            Prod.mk.injEq] at sends
          obtain ⟨rfl, _, rfl⟩ := sends
          exact ⟨connection, rfl, rfl⟩

/-- A packet that fits the scratch array is written as its frame. -/
theorem Send_readTun
    (aead : Aead 16)
    (self : TCPConnection)
    (packet : List UInt8)
    (draw : SendDraw)
    (fits : packet.length ≤ MAX_BUFFSIZE)
    {socket : SocketId}
    (set : self.conn_socket = some socket) :
    ∃ buffer result,
      self.readTun packet =
          some { self with tun_recv_buffer := buffer } ∧
        Send aead { self with tun_recv_buffer := buffer }
            packet.length draw =
          .ok ({ self with toIConnection := result }, socket,
            frameBytes aead self.protocol.key packet draw) ∧
        result.protocol.key = self.protocol.key ∧
        result.conn_recv_buffer = self.conn_recv_buffer := by
  obtain ⟨buffer, result, staged, sealed, key, untouched⟩ :=
    self.toIConnection.readTun_encryptFrame aead packet draw fits
  refine ⟨buffer, result, ?_, ?_, key, untouched⟩
  · simp only [readTun, staged]
    rfl
  · simp only [Send, sealed, set]

theorem SendTo_of_selected
    {aead : Aead 16}
    {self after : TCPConnection}
    {size : Nat}
    {draw : SendDraw}
    {socket : SocketId}
    {frame : List UInt8}
    (sends : self.Send aead size draw = .ok (after, socket, frame))
    (selected : self.selected = true) :
    self.SendTo aead size draw = .ok (after, some (socket, frame)) := by
  unfold SendTo
  rw [if_pos selected, sends]

/-- The connection `SendTo` works on differs in its packet buffers only. -/
theorem SendTo_members
    {aead : Aead 16}
    {connection result : TCPConnection}
    {size : Nat}
    {draw : SendDraw}
    {writes : Option (SocketId × List UInt8)}
    (sends :
      connection.SendTo aead size draw = .ok (result, writes)) :
    (∃ members, result = { connection with toIConnection := members }) ∧
      (writes ≠ none → connection.selected = true) := by
  unfold TCPConnection.SendTo at sends
  split at sends
  · rename_i selected
    split at sends
    · cases sends
    · rename_i sent socket frame inner
      obtain ⟨members, _, rfl⟩ :=
        Send_encryptFrame inner
      simp only [Except.ok.injEq, Prod.mk.injEq] at sends
      obtain ⟨rfl, _⟩ := sends
      exact ⟨⟨members, rfl⟩, fun _ => selected⟩
  · simp only [Except.ok.injEq, Prod.mk.injEq] at sends
    obtain ⟨rfl, rfl⟩ := sends
    exact ⟨⟨_, rfl⟩, fun writes => (writes rfl).elim⟩

/-- A packet is written to the current socket. -/
theorem SendTo_socket
    {aead : Aead 16}
    {connection result : TCPConnection}
    {size : Nat}
    {draw : SendDraw}
    {socket : SocketId}
    {frame : List UInt8}
    (sends :
      connection.SendTo aead size draw =
        .ok (result, some (socket, frame))) :
    connection.conn_socket = some socket := by
  unfold SendTo Send at sends
  split at sends
  · split at sends
    · cases sends
    · rename_i inner
      split at inner
      · cases inner
      · split at inner
        · cases inner
        · rename_i current set
          simp only [Except.ok.injEq, Prod.mk.injEq] at inner sends
          obtain ⟨_, rfl, _⟩ := inner
          obtain ⟨_, same⟩ := sends
          obtain ⟨rfl, _⟩ := Prod.mk.inj (Option.some.inj same)
          exact set
  · simp only [Except.ok.injEq, Prod.mk.injEq] at sends
    obtain ⟨_, none⟩ := sends
    cases none

/-- `SendTo` fails, drops the packet, or writes it to the current socket. -/
theorem SendTo_cases
    (aead : Aead 16)
    (self : TCPConnection)
    (size : Nat)
    (draw : SendDraw) :
    (∃ fault,
        self.SendTo aead size draw = .error fault ∧
          (fault = .outOfBounds ∨
            (fault = .nullDereference ∧ self.selected = true ∧
              self.conn_socket = none))) ∨
      self.SendTo aead size draw = .ok (self, none) ∨
      ∃ members socket frame,
        self.SendTo aead size draw =
            .ok
              ({ self with toIConnection := members },
                some (socket, frame)) ∧
          self.selected = true ∧
          self.conn_socket = some socket ∧
          self.toIConnection.encryptFrame aead size draw =
            some (members, frame) := by
  unfold SendTo Send
  by_cases selected : self.selected = true
  · rw [if_pos selected]
    cases sealed : self.toIConnection.encryptFrame aead size draw with
    | none => exact Or.inl ⟨_, rfl, Or.inl rfl⟩
    | some output =>
        obtain ⟨members, frame⟩ := output
        cases current : self.conn_socket with
        | none => exact Or.inl ⟨_, rfl, Or.inr ⟨rfl, selected, rfl⟩⟩
        | some socket =>
            exact Or.inr (Or.inr
              ⟨members, socket, frame, rfl, selected, rfl, rfl⟩)
  · rw [if_neg selected]
    exact Or.inr (Or.inl rfl)

/-- Reading a packet from the TUN device leaves the receive buffer alone. -/
theorem readTun_conn_recv_buffer
    (self : TCPConnection)
    (buffer : PacketBuffer)
    (packet : List UInt8) :
    readTun { self with conn_recv_buffer := buffer } packet =
      (self.readTun packet).map fun ready =>
        { ready with conn_recv_buffer := buffer } := by
  unfold readTun IConnection.readTun
  cases self.tun_recv_buffer.store? ProtocolHeader.Size packet <;> rfl

/-- Sending neither reads nor writes the receive buffer. -/
theorem SendTo_conn_recv_buffer
    (aead : Aead 16)
    (self : TCPConnection)
    (buffer : PacketBuffer)
    (size : Nat)
    (draw : SendDraw) :
    SendTo aead { self with conn_recv_buffer := buffer } size draw =
      (self.SendTo aead size draw).map fun output =>
        ({ output.1 with conn_recv_buffer := buffer }, output.2) := by
  obtain ⟨members, _, conn_socket, _, _, selected, _⟩ := self
  unfold SendTo Send
  simp only [IConnection.encryptFrame_conn_recv_buffer]
  cases selected with
  | false => rfl
  | true =>
      cases members.encryptFrame aead size draw with
      | none => rfl
      | some output =>
          cases conn_socket with
          | none => rfl
          | some socket => rfl

theorem readTun_untouched
    {self ready : TCPConnection}
    {packet : List UInt8}
    (staged : self.readTun packet = some ready) :
    ready.conn_recv_buffer = self.conn_recv_buffer := by
  have same := self.readTun_conn_recv_buffer self.conn_recv_buffer packet
  rw [staged] at same
  rw [Option.some.inj same]

theorem SendTo_untouched
    {aead : Aead 16}
    {connection result : TCPConnection}
    {size : Nat}
    {draw : SendDraw}
    {writes : Option (SocketId × List UInt8)}
    (sends :
      connection.SendTo aead size draw = .ok (result, writes)) :
    result.conn_recv_buffer = connection.conn_recv_buffer := by
  have same :=
    connection.SendTo_conn_recv_buffer aead
      connection.conn_recv_buffer size draw
  rw [sends] at same
  rw [(Prod.mk.inj (Except.ok.inj same)).1]

end TCPConnection

namespace Connection

variable {Endpoint : Type}

/--
Every send operation drops the packet or seals it under its own draw, and
leaves the receive buffer alone.
-/
theorem send_effect
    {aead : Aead 16}
    {self after : Connection Endpoint}
    {request : SendRequest}
    {frame : Option (List UInt8)}
    (sends : self.send aead request = some (after, frame)) :
    after.protocol.key = self.protocol.key ∧
      after.members.conn_recv_buffer = self.members.conn_recv_buffer ∧
      SendEffect aead self.protocol after.protocol request frame := by
  obtain ⟨index, path, packet, draw⟩ := request
  cases self with
  | udp connection =>
      cases path <;>
        (simp only [send, UDPConnection.readTun, UDPConnection.Send,
            UDPConnection.SendTo, Option.bind_eq_bind,
            Option.bind_eq_some_iff, Option.some.injEq,
            Prod.exists, Prod.mk.injEq] at sends
         obtain ⟨_, ⟨ready, staged, rfl⟩, _, _,
           ⟨result, bytes, sealed, rfl, rfl⟩, rfl, rfl⟩ := sends
         obtain ⟨fits, rfl, key, calls, untouched⟩ :=
           IConnection.encryptFrame_readTun staged sealed
         exact ⟨key, untouched, Or.inr ⟨fits, rfl, calls⟩⟩)
  | tcp connection =>
      cases path with
      | send =>
          simp only [send, TCPConnection.readTun, Option.bind_eq_bind,
            Option.bind_eq_some_iff, Option.some.injEq] at sends
          obtain ⟨_, ⟨ready, staged, rfl⟩, sends⟩ := sends
          split at sends
          · cases sends
          · rename_i done socket bytes written
            obtain ⟨result, sealed, rfl⟩ :=
              TCPConnection.Send_encryptFrame written
            simp only [Option.some.injEq, Prod.mk.injEq] at sends
            obtain ⟨rfl, rfl⟩ := sends
            obtain ⟨fits, rfl, key, calls, untouched⟩ :=
              IConnection.encryptFrame_readTun staged sealed
            exact ⟨key, untouched, Or.inr ⟨fits, rfl, calls⟩⟩
      | sendTo =>
          simp only [send, TCPConnection.readTun, Option.bind_eq_bind,
            Option.bind_eq_some_iff, Option.some.injEq] at sends
          obtain ⟨_, ⟨ready, staged, rfl⟩, sends⟩ := sends
          split at sends
          · cases sends
          · rename_i done writes written
            simp only [Option.some.injEq, Prod.mk.injEq] at sends
            obtain ⟨rfl, rfl⟩ := sends
            have untouched :
                ready.protocol = connection.protocol ∧
                  ready.conn_recv_buffer =
                    connection.conn_recv_buffer := by
              simp only [IConnection.readTun, Option.bind_eq_bind,
                Option.bind_eq_some_iff, Option.some.injEq] at staged
              obtain ⟨_, _, rfl⟩ := staged
              exact ⟨rfl, rfl⟩
            unfold TCPConnection.SendTo at written
            split at written
            · split at written
              · cases written
              · rename_i sent socket bytes inner
                obtain ⟨result, sealed, rfl⟩ :=
                  TCPConnection.Send_encryptFrame inner
                simp only [Except.ok.injEq, Prod.mk.injEq] at written
                obtain ⟨rfl, rfl⟩ := written
                obtain ⟨fits, rfl, key, calls, untouched⟩ :=
                  IConnection.encryptFrame_readTun staged sealed
                exact ⟨key, untouched, Or.inr ⟨fits, rfl, calls⟩⟩
            · -- no connection is selected: the packet is dropped
              simp only [Except.ok.injEq, Prod.mk.injEq] at written
              obtain ⟨rfl, rfl⟩ := written
              refine ⟨?_, untouched.2, Or.inl ⟨rfl, ?_⟩⟩
              · exact congrArg Protocol.key untouched.1
              · exact congrArg Protocol.calls untouched.1

end Connection

section Run

variable {Endpoint : Type}

/-- Every recorded send was requested, in the order of the requests. -/
theorem sendRun_requests
    (aead : Aead 16)
    (connections : Nat → Connection Endpoint)
    (requests : List SendRequest) :
    ((sendRun aead connections requests).map Sent.request).Sublist
      requests := by
  induction requests generalizing connections with
  | nil =>
      exact List.Sublist.slnil
  | cons request rest inductionHypothesis =>
      simp only [sendRun]
      split
      · exact List.nil_sublist _
      · simp only [List.map_cons]
        exact (inductionHypothesis _).cons_cons request

/-- A recorded send was dropped, or sealed a frame under `key`. -/
def Sent.SealedUnder
    (aead : Aead 16)
    (key : List UInt8)
    (sent : Sent) : Prop :=
  (sent.frame = none ∧ sent.calls = []) ∨
    (sent.request.packet.length ≤ MAX_BUFFSIZE ∧
      sent.frame =
        some (frameBytes aead key
          sent.request.packet sent.request.draw) ∧
      sent.calls =
        frameCalls key sent.request.packet sent.request.draw)

/-- The record of a send, with the calls it added to the log. -/
theorem SendEffect.sealedUnder
    {aead : Aead 16}
    {before after : Protocol}
    {request : SendRequest}
    {frame : Option (List UInt8)}
    (effect : SendEffect aead before after request frame) :
    Sent.SealedUnder aead before.key
      { request := request
        frame := frame
        calls := after.calls.drop before.calls.length } := by
  rcases effect with ⟨dropped, calls⟩ | ⟨fits, sealed, calls⟩
  · exact Or.inl ⟨dropped, by simp [calls]⟩
  · exact Or.inr ⟨fits, sealed, by simp [calls]⟩

/-- Every recorded send is sealed under the key of its object. -/
theorem sendRun_sealed
    {aead : Aead 16}
    {connections : Nat → Connection Endpoint}
    {requests : List SendRequest}
    {sent : Sent}
    (member : sent ∈ sendRun aead connections requests) :
    sent.SealedUnder aead
      (connections sent.request.connection).protocol.key := by
  induction requests generalizing connections with
  | nil =>
      simp [sendRun] at member
  | cons request rest inductionHypothesis =>
      simp only [sendRun] at member
      split at member
      · simp at member
      · rename_i after frame sends
        obtain ⟨sameKey, _, effect⟩ := Connection.send_effect sends
        rcases List.mem_cons.mp member with rfl | inRest
        · exact effect.sealedUnder
        · have later := inductionHypothesis inRest
          by_cases sameObject :
              sent.request.connection = request.connection
          · rw [sameObject, Function.update_self, sameKey] at later
            rwa [sameObject]
          · rwa [Function.update_of_ne sameObject] at later

/-- One packet sent over UDP makes the two calls of its frame. -/
theorem sendRun_oneDatagram
    (aead : Aead 16)
    (connection : UDPConnection Endpoint)
    (packet : List UInt8)
    (draw : SendDraw)
    (fits : packet.length ≤ MAX_BUFFSIZE) :
    (sendRun aead (fun _ => .udp connection)
        [⟨0, .send, packet, draw⟩]).flatMap Sent.calls =
      frameCalls connection.protocol.key packet draw := by
  obtain ⟨ready, staged, ⟨sent, sends⟩, _⟩ :=
    connection.send_readTun aead packet draw fits
  have performed :
      (Connection.udp connection).send aead ⟨0, .send, packet, draw⟩ =
        some (.udp sent,
          some (frameBytes aead connection.protocol.key packet draw)) := by
    simp only [Connection.send, staged, Option.bind_eq_bind,
      Option.bind_some]
    rw [sends]
    rfl
  obtain ⟨_, _, effect⟩ := Connection.send_effect performed
  obtain ⟨_, _, calls⟩ := effect.resolve_left (by simp)
  simp only [sendRun, performed, List.flatMap_cons, List.flatMap_nil,
    List.append_nil]
  rw [calls]
  exact List.drop_left

end Run

end Dsvpn
