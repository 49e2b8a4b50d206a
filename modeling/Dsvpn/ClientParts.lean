import Dsvpn.ClientLoops

namespace Dsvpn

open ProtocolHeader

/-!
# The parts of the object that each loop works on

Sending and receiving share one connection object.  `sendPart` and
`receivePart` are the object with the other direction as it was when the
object was created; each operation does the same on its part, and leaves the
other part as it is.
-/

variable {Endpoint : Type}

/-- All that receiving reads and writes is as in a new object. -/
def Protocol.sendPart (self : Protocol) : Protocol :=
  { self with decryptedData := ⟨fun _ => 0⟩ }

/-- All that sending writes is as in a new object. -/
def Protocol.receivePart (self : Protocol) : Protocol :=
  { self with
    aes256gcm_crypto := { self.aes256gcm_crypto with calls := [] }
    encryptedData := ⟨fun _ => 0⟩ }

namespace IConnection

def sendPart (self : IConnection) : IConnection where
  protocol := self.protocol.sendPart
  tun_recv_buffer := self.tun_recv_buffer
  conn_recv_buffer := ⟨fun _ => 0⟩

def receivePart (self : IConnection) : IConnection where
  protocol := self.protocol.receivePart
  tun_recv_buffer := ⟨fun _ => 0⟩
  conn_recv_buffer := self.conn_recv_buffer

/-- `Send` does not use what receiving works on. -/
theorem encryptFrame_sendPart
    (aead : Aead 16)
    (self : IConnection)
    (size : Nat)
    (draw : SendDraw) :
    self.sendPart.encryptFrame aead size draw =
      (self.encryptFrame aead size draw).map fun result =>
        (result.1.sendPart, result.2) := by
  have payload (header : PacketBuffer) :
      self.protocol.sendPart.EncryptPayload aead header draw =
        (self.protocol.EncryptPayload aead header draw).map
          fun result => (result.1.sendPart, result.2) := by
    simp only [Protocol.EncryptPayload, Protocol.sendPart,
      Option.bind_eq_bind, Option.map_bind, Function.comp_def,
      Option.map_some]
  simp only [encryptFrame, sendPart, payload, Option.bind_eq_bind,
    Option.map_bind, Option.bind_map, Function.comp_def,
    Option.map_some]
  rfl

/-- A send leaves alone what receiving works on. -/
theorem encryptFrame_receivePart
    {aead : Aead 16}
    {self after : IConnection}
    {size : Nat}
    {draw : SendDraw}
    {frame : List UInt8}
    (sealed : self.encryptFrame aead size draw = some (after, frame)) :
    after.receivePart = self.receivePart := by
  simp only [encryptFrame, Protocol.EncryptPayload, Option.bind_eq_bind,
    Option.bind_eq_some_iff, Option.some.injEq, Prod.mk.injEq] at sealed
  obtain ⟨_, ⟨_, _, _, _, _, _, _, _, _, _, rfl⟩, _, _, rfl, _⟩ := sealed
  rfl

end IConnection

namespace Protocol

/-- Decryption does not use what sending works on. -/
theorem DecryptPayload_receivePart
    (aead : Aead 16)
    (self : Protocol)
    (header : PacketBuffer) :
    self.receivePart.DecryptPayload aead header =
      (self.DecryptPayload aead header).map fun result =>
        (result.1.receivePart, result.2) := by
  have sameKey (ciphertext : List UInt8) :
      self.receivePart.aes256gcm_crypto.decryptData aead
          (NONCE header) ciphertext (PAYLOAD_TAG header) =
        self.aes256gcm_crypto.decryptData aead
          (NONCE header) ciphertext (PAYLOAD_TAG header) :=
    rfl
  simp only [DecryptPayload, sameKey]
  split
  · rfl
  · cases header.load? Size (PAYLOAD_LENGTH header) with
    | none => rfl
    | some ciphertext =>
        simp only [Option.bind_eq_bind, Option.bind_some]
        split
        · rfl
        · simp only [Option.map_bind, Function.comp_def, Option.map_some]
          rfl

/-- Decryption leaves alone what sending works on. -/
theorem DecryptPayload_sendPart
    {aead : Aead 16}
    {self after : Protocol}
    {header opened : PacketBuffer}
    {accepted : Bool}
    (decrypted :
      self.DecryptPayload aead header = some (after, opened, accepted)) :
    after.sendPart = self.sendPart := by
  rcases self.DecryptPayload_cases aead header with
    ⟨plaintext, _, _, _, accepts⟩ | rejects
  · rw [accepts] at decrypted
    obtain ⟨rfl, _⟩ := Prod.mk.inj (Option.some.inj decrypted)
    rfl
  · rw [rejects] at decrypted
    obtain ⟨rfl, _⟩ := Prod.mk.inj (Option.some.inj decrypted)
    rfl

end Protocol

namespace IConnection

theorem decryptFrame_receivePart
    (aead : Aead 16)
    (self : IConnection) :
    self.receivePart.decryptFrame aead =
      (self.decryptFrame aead).map fun result =>
        (result.1.receivePart, result.2) := by
  have header :
      self.receivePart.protocol.DecryptHeader aead
          self.receivePart.conn_recv_buffer =
        self.protocol.DecryptHeader aead self.conn_recv_buffer :=
    rfl
  have payload := self.protocol.DecryptPayload_receivePart aead
  simp only [decryptFrame, header]
  split
  · rfl
  · simp only [receivePart, payload, Option.bind_eq_bind,
      Option.map_bind, Option.bind_map, Function.comp_def,
      Option.map_some]

theorem decryptFrame_sendPart
    {aead : Aead 16}
    {self after : IConnection}
    {value : Int}
    (decrypted : self.decryptFrame aead = some (after, value)) :
    after.sendPart = self.sendPart := by
  simp only [decryptFrame] at decrypted
  split at decrypted
  · obtain ⟨rfl, _⟩ := Prod.mk.inj (Option.some.inj decrypted)
    rfl
  · simp only [Option.bind_eq_bind, Option.bind_eq_some_iff,
      Option.some.injEq, Prod.mk.injEq] at decrypted
    obtain ⟨⟨protocol, header, accepted⟩, opens, rfl, _⟩ := decrypted
    simp only [sendPart, Protocol.DecryptPayload_sendPart opens]

end IConnection

namespace UdpReceiver

def sendPart (self : UdpReceiver Endpoint) : UdpReceiver Endpoint :=
  create
    { self.connection with
      toIConnection := self.connection.toIConnection.sendPart
      last_recv_ep := none }

def receivePart (self : UdpReceiver Endpoint) : UdpReceiver Endpoint :=
  { self with
    connection :=
      { self.connection with
        toIConnection := self.connection.toIConnection.receivePart } }

theorem arrive_receivePart
    (self : UdpReceiver Endpoint)
    (size : Nat)
    (source : Endpoint)
    (datagram : List UInt8) :
    self.receivePart.arrive size source datagram =
      (self.arrive size source datagram).receivePart := by
  simp only [arrive, receivePart, UDPConnection.asyncReceiveFrom,
    IConnection.receivePart, Option.bind_eq_bind]
  cases self.connection.conn_recv_buffer.store? 0 (datagram.take size) with
  | none => rfl
  | some buffer => rfl

variable [DecidableEq Endpoint]

theorem resume_receivePart
    (aead : Aead 16)
    (self : UdpReceiver Endpoint)
    (error : Option ErrorCode) :
    self.receivePart.resume aead error =
      (self.resume aead error).receivePart := by
  have resumed :
      self.receivePart.connection.resumeReceive aead =
        (self.connection.resumeReceive aead).map fun result =>
          ({ result.1 with
              toIConnection := result.1.toIConnection.receivePart },
            result.2) := by
    have decrypted :
        self.receivePart.connection.toIConnection.decryptFrame aead =
          (self.connection.toIConnection.decryptFrame aead).map
            fun result => (result.1.receivePart, result.2) :=
      self.connection.toIConnection.decryptFrame_receivePart aead
    have last :
        self.receivePart.connection.last_recv_ep =
          self.connection.last_recv_ep :=
      rfl
    have remote :
        self.receivePart.connection.remote_send_ep =
          self.connection.remote_send_ep :=
      rfl
    simp only [UDPConnection.resumeReceive, decrypted, last, remote]
    split
    · rfl
    · cases self.connection.toIConnection.decryptFrame aead with
      | none => rfl
      | some result => rfl
  simp only [resume, resumed]
  cases self.connection.resumeReceive aead with
  | none => rfl
  | some result => rfl

/-- Receiving works in the same way whatever has been sent. -/
theorem step_receivePart
    (aead : Aead 16)
    (self : UdpReceiver Endpoint)
    (event : UdpReceiveEvent Endpoint) :
    self.receivePart.step aead event =
      (self.step aead event).map receivePart := by
  have fault : self.receivePart.fault = self.fault := rfl
  have pc : self.receivePart.pc = self.pc := rfl
  simp only [step, fault, pc]
  by_cases faulted : self.fault.isSome = true
  · rw [if_pos faulted, if_pos faulted]
    rfl
  · rw [if_neg faulted, if_neg faulted]
    split
    · rfl
    · rw [arrive_receivePart]
      rfl
    · rfl
    · rw [resume_receivePart]
      rfl
    · rfl

/-- Receiving leaves alone what sending works on. -/
theorem step_sendPart
    {aead : Aead 16}
    {self next : UdpReceiver Endpoint}
    {event : UdpReceiveEvent Endpoint}
    (performed : self.step aead event = some next) :
    next.sendPart = self.sendPart := by
  unfold step at performed
  split at performed
  · cases performed
  · split at performed
    · obtain rfl := Option.some.inj performed
      rfl
    · obtain rfl := Option.some.inj performed
      unfold arrive UDPConnection.asyncReceiveFrom
      simp only [Option.bind_eq_bind]
      split
      · rfl
      · rename_i connection stored
        obtain ⟨buffer, _, same⟩ := Option.bind_eq_some_iff.mp stored
        obtain rfl := Option.some.inj same
        rfl
    · obtain rfl := Option.some.inj performed
      rfl
    · obtain rfl := Option.some.inj performed
      unfold resume UDPConnection.resumeReceive
      split
      · rfl
      · rename_i connection value resumed
        split at resumed
        · obtain ⟨rfl, _⟩ := Prod.mk.inj (Option.some.inj resumed)
          rfl
        · simp only [Option.bind_eq_bind, Option.bind_eq_some_iff,
            Option.some.injEq, Prod.mk.injEq] at resumed
          obtain ⟨⟨members, _⟩, decrypted, rfl, _⟩ := resumed
          simp only [sendPart,
            IConnection.decryptFrame_sendPart decrypted]
    · cases performed

end UdpReceiver

namespace TcpReceiver

def sendPart (self : TcpReceiver) : TcpReceiver :=
  create
    { self.connection with
      toIConnection := self.connection.toIConnection.sendPart }

def receivePart (self : TcpReceiver) : TcpReceiver :=
  { self with
    connection :=
      { self.connection with
        toIConnection := self.connection.toIConnection.receivePart } }

theorem Receive_receivePart (self : TcpReceiver) :
    self.receivePart.Receive = self.Receive.receivePart := by
  simp only [Receive, receivePart]
  split
  · rfl
  · rfl

theorem arrive_receivePart
    (self : TcpReceiver)
    (pc : ReadOp → ReceivePc)
    (op : ReadOp)
    (piece : List UInt8) :
    self.receivePart.arrive pc op piece =
      (self.arrive pc op piece).map receivePart := by
  simp only [arrive, receivePart, IConnection.receivePiece,
    IConnection.receivePart, Option.bind_eq_bind]
  split
  · cases self.connection.conn_recv_buffer.store?
      (op.offset + op.got) piece with
    | none => rfl
    | some buffer => rfl
  · rfl

theorem resumeHeader_receivePart
    (aead : Aead 16)
    (self : TcpReceiver)
    (bytes_read : Nat)
    (error : Option ErrorCode) :
    self.receivePart.resumeHeader aead bytes_read error =
      (self.resumeHeader aead bytes_read error).receivePart := by
  have header :
      self.receivePart.connection.protocol.DecryptHeader aead
          self.receivePart.connection.conn_recv_buffer =
        self.connection.protocol.DecryptHeader aead
          self.connection.conn_recv_buffer :=
    rfl
  have socket :
      self.receivePart.connection.conn_socket =
        self.connection.conn_socket :=
    rfl
  simp only [resumeHeader, header, socket]
  split
  · rfl
  · split
    · rfl
    · split
      · rfl
      · rfl

theorem resumePayload_receivePart
    (aead : Aead 16)
    (self : TcpReceiver)
    (bytes_read : Nat)
    (error : Option ErrorCode) :
    self.receivePart.resumePayload aead bytes_read error =
      (self.resumePayload aead bytes_read error).receivePart := by
  have payload :
      self.receivePart.connection.protocol.DecryptPayload aead
          self.receivePart.connection.conn_recv_buffer =
        (self.connection.protocol.DecryptPayload aead
            self.connection.conn_recv_buffer).map fun result =>
          (result.1.receivePart, result.2) :=
    self.connection.protocol.DecryptPayload_receivePart aead _
  simp only [resumePayload, payload]
  split
  · rfl
  · cases self.connection.protocol.DecryptPayload aead
      self.connection.conn_recv_buffer with
    | none => rfl
    | some result => rfl

theorem step_receivePart
    (aead : Aead 16)
    (self : TcpReceiver)
    (event : ReceiveEvent) :
    self.receivePart.step aead event =
      (self.step aead event).map receivePart := by
  have fault : self.receivePart.fault = self.fault := rfl
  have pc : self.receivePart.pc = self.pc := rfl
  simp only [step, fault, pc]
  by_cases faulted : self.fault.isSome = true
  · rw [if_pos faulted, if_pos faulted]
    rfl
  · rw [if_neg faulted, if_neg faulted]
    split
    · rw [Receive_receivePart]
      rfl
    · exact arrive_receivePart _ _ _ _
    · exact arrive_receivePart _ _ _ _
    · rfl
    · rfl
    · rename_i op _
      cases op.outcome with
      | none => rfl
      | some error =>
          exact congrArg some (resumeHeader_receivePart _ _ _ _)
    · rename_i op _
      cases op.outcome with
      | none => rfl
      | some error =>
          exact congrArg some (resumePayload_receivePart _ _ _ _)
    · rfl

theorem step_sendPart
    {aead : Aead 16}
    {self next : TcpReceiver}
    {event : ReceiveEvent}
    (performed : self.step aead event = some next) :
    next.sendPart = self.sendPart := by
  have arrives
      {pc : ReadOp → ReceivePc}
      {op : ReadOp}
      {piece : List UInt8}
      (arrived : self.arrive pc op piece = some next) :
      next.sendPart = self.sendPart := by
    simp only [arrive, IConnection.receivePiece,
      Option.bind_eq_bind] at arrived
    split at arrived
    · split at arrived
      · obtain rfl := Option.some.inj arrived
        rfl
      · rename_i members stored
        obtain ⟨buffer, _, same⟩ := Option.bind_eq_some_iff.mp stored
        obtain rfl := Option.some.inj same
        obtain rfl := Option.some.inj arrived
        rfl
    · cases arrived
  unfold step at performed
  split at performed
  · cases performed
  · split at performed
    · obtain rfl := Option.some.inj performed
      unfold Receive
      split
      · rfl
      · rfl
    · exact arrives performed
    · exact arrives performed
    · obtain rfl := Option.some.inj performed
      rfl
    · obtain rfl := Option.some.inj performed
      rfl
    · obtain ⟨error, _, rfl⟩ := Option.map_eq_some_iff.mp performed
      unfold resumeHeader
      split
      · rfl
      · split
        · rfl
        · simp only
          split
          · rfl
          · rfl
    · obtain ⟨error, _, rfl⟩ := Option.map_eq_some_iff.mp performed
      unfold resumePayload
      split
      · rfl
      · split
        · rfl
        · rename_i protocol header accepted opens
          simp only [sendPart, create, finish, IConnection.sendPart,
            Protocol.DecryptPayload_sendPart opens]
    · cases performed

end TcpReceiver

namespace ClientTransport

def sendPart : ClientTransport Endpoint → ClientTransport Endpoint
  | .udp receiver => .udp receiver.sendPart
  | .tcp receiver => .tcp receiver.sendPart

def receivePart : ClientTransport Endpoint → ClientTransport Endpoint
  | .udp receiver => .udp receiver.receivePart
  | .tcp receiver => .tcp receiver.receivePart

theorem step_receivePart
    [DecidableEq Endpoint]
    (aead : Aead 16)
    (self : ClientTransport Endpoint)
    (event : ClientEvent Endpoint) :
    self.receivePart.step aead event =
      (self.step aead event).map receivePart := by
  cases self with
  | udp receiver =>
      cases event with
      | udp event =>
          simp only [receivePart, step, receiver.step_receivePart,
            Option.map_map]
          rfl
      | tcp event => rfl
  | tcp receiver =>
      cases event with
      | udp event => rfl
      | tcp event =>
          simp only [receivePart, step, receiver.step_receivePart,
            Option.map_map]
          rfl

theorem step_sendPart
    [DecidableEq Endpoint]
    {aead : Aead 16}
    {self next : ClientTransport Endpoint}
    {event : ClientEvent Endpoint}
    (performed : self.step aead event = some next) :
    next.sendPart = self.sendPart := by
  cases self with
  | udp receiver =>
      cases event with
      | udp event =>
          obtain ⟨after, stepped, rfl⟩ := Option.map_eq_some_iff.mp performed
          exact congrArg udp (UdpReceiver.step_sendPart stepped)
      | tcp event => cases performed
  | tcp receiver =>
      cases event with
      | udp event => cases performed
      | tcp event =>
          obtain ⟨after, stepped, rfl⟩ := Option.map_eq_some_iff.mp performed
          exact congrArg tcp (TcpReceiver.step_sendPart stepped)

theorem Send_sendPart
    (aead : Aead 16)
    (self : ClientTransport Endpoint)
    (size : Nat)
    (draw : SendDraw) :
    self.sendPart.Send aead size draw =
      (self.Send aead size draw).map fun result =>
        (result.1.sendPart, result.2) := by
  cases self with
  | udp receiver =>
      have sealed :
          receiver.sendPart.connection.toIConnection.encryptFrame aead
              size draw =
            (receiver.connection.toIConnection.encryptFrame aead size
              draw).map fun result => (result.1.sendPart, result.2) :=
        IConnection.encryptFrame_sendPart _ _ _ _
      simp only [Send, sendPart, UDPConnection.Send, sealed]
      cases receiver.connection.toIConnection.encryptFrame aead size
        draw with
      | none => rfl
      | some result => rfl
  | tcp receiver =>
      have sealed :
          receiver.sendPart.connection.toIConnection.encryptFrame aead
              size draw =
            (receiver.connection.toIConnection.encryptFrame aead size
              draw).map fun result => (result.1.sendPart, result.2) :=
        IConnection.encryptFrame_sendPart _ _ _ _
      have socket :
          receiver.sendPart.connection.conn_socket =
            receiver.connection.conn_socket :=
        rfl
      simp only [Send, sendPart, TCPConnection.Send, sealed, socket]
      cases receiver.connection.toIConnection.encryptFrame aead size
        draw with
      | none => rfl
      | some result =>
          cases receiver.connection.conn_socket with
          | none => rfl
          | some socket => rfl

theorem Send_receivePart
    {aead : Aead 16}
    {self after : ClientTransport Endpoint}
    {size length : Nat}
    {draw : SendDraw}
    {peer : Peer Endpoint}
    (sends : self.Send aead size draw = .ok (after, peer, length)) :
    after.receivePart = self.receivePart := by
  cases self with
  | udp receiver =>
      simp only [Send] at sends
      split at sends
      · cases sends
      · rename_i connection datagram sent
        obtain ⟨rfl, _⟩ := Prod.mk.inj (Except.ok.inj sends)
        simp only [UDPConnection.Send, Option.bind_eq_bind,
          Option.bind_eq_some_iff, Option.some.injEq,
          Prod.mk.injEq] at sent
        obtain ⟨⟨members, frame⟩, sealed, rfl, _⟩ := sent
        simp only [receivePart, UdpReceiver.receivePart,
          IConnection.encryptFrame_receivePart sealed]
  | tcp receiver =>
      simp only [Send] at sends
      split at sends
      · cases sends
      · rename_i connection socket frame sent
        obtain ⟨rfl, _⟩ := Prod.mk.inj (Except.ok.inj sends)
        unfold TCPConnection.Send at sent
        split at sent
        · cases sent
        · rename_i members bytes sealed
          split at sent
          · cases sent
          · obtain ⟨rfl, _⟩ := Prod.mk.inj (Except.ok.inj sent)
            simp only [receivePart, TcpReceiver.receivePart,
              IConnection.encryptFrame_receivePart sealed]

section Parts

variable (self : ClientTransport Endpoint)

theorem sendPart_tun_recv_buffer :
    self.sendPart.connection.members.tun_recv_buffer =
      self.connection.members.tun_recv_buffer := by
  cases self <;> rfl

theorem sendPart_Takes (size sent length : Nat) :
    self.sendPart.Takes size sent length =
      self.Takes size sent length := by
  cases self <;> rfl

theorem sendPart_setTunBuffer (buffer : PacketBuffer) :
    self.sendPart.setMembers
        { self.sendPart.connection.members with
          tun_recv_buffer := buffer } =
      (self.setMembers
        { self.connection.members with
          tun_recv_buffer := buffer }).sendPart := by
  cases self <;> rfl

theorem setTunBuffer_receivePart (buffer : PacketBuffer) :
    (self.setMembers
        { self.connection.members with
          tun_recv_buffer := buffer }).receivePart =
      self.receivePart := by
  cases self <;> rfl

theorem receivePart_conn_recv_buffer :
    self.receivePart.connection.members.conn_recv_buffer =
      self.connection.members.conn_recv_buffer := by
  cases self <;> rfl

theorem receivePart_setConnBuffer (buffer : PacketBuffer) :
    self.receivePart.setMembers
        { self.receivePart.connection.members with
          conn_recv_buffer := buffer } =
      (self.setMembers
        { self.connection.members with
          conn_recv_buffer := buffer }).receivePart := by
  cases self <;> rfl

theorem setConnBuffer_sendPart (buffer : PacketBuffer) :
    (self.setMembers
        { self.connection.members with
          conn_recv_buffer := buffer }).sendPart =
      self.sendPart := by
  cases self <;> rfl

theorem receivePart_idle : self.receivePart.idle = self.idle := by
  cases self <;> rfl

theorem receivePart_returned :
    self.receivePart.returned = self.returned := by
  cases self <;> rfl

theorem receivePart_fault : self.receivePart.fault = self.fault := by
  cases self <;> rfl

theorem setFault_receivePart (fault : Fault) :
    self.receivePart.setFault fault =
      (self.setFault fault).receivePart := by
  cases self <;> rfl

theorem setFault_sendPart (fault : Fault) :
    (self.setFault fault).sendPart = self.sendPart := by
  cases self <;> rfl

theorem Receive_receivePart (size : Nat) :
    self.receivePart.Receive size =
      (self.Receive size).receivePart := by
  cases self with
  | udp receiver => rfl
  | tcp receiver =>
      exact congrArg tcp (TcpReceiver.Receive_receivePart receiver)

theorem Receive_sendPart (size : Nat) :
    (self.Receive size).sendPart = self.sendPart := by
  cases self with
  | udp receiver => rfl
  | tcp receiver =>
      simp only [Receive, sendPart, TcpReceiver.Receive]
      split
      · rfl
      · rfl

end Parts

end ClientTransport

end Dsvpn
