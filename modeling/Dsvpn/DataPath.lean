import Dsvpn.Client
import Dsvpn.Context
import Dsvpn.DecodeBounds

namespace Dsvpn

open ProtocolHeader
open IpPacket

/-!
# The loops between the TUN device and the connection

The buffers have fixed sizes, while the MTU comes from the configuration: it
limits the packets of the TUN device and the datagrams that are received.  The
turns of the four loops are checked against the arrays they work on.
-/

variable {Endpoint : Type}

/-- What the device puts before every packet. -/
def TUN_PACKET_HL : Platform → Nat
  | .linux => 0
  | .apple => 4

namespace Connection

/-- The protocol the connection was made for. -/
def isOf : Connection Endpoint → ConnProtocolType → Bool
  | .udp _, .UDP => true
  | .tcp _, .TCP => true
  | _, _ => false

/-- `Read` from the TUN device to this place in `tun_recv_buffer`. -/
def readTunAt
    (self : Connection Endpoint)
    (offset : Nat)
    (bytes : List UInt8) : Option (Connection Endpoint) :=
  match self with
  | .udp connection => do
      let buffer ← connection.tun_recv_buffer.store? offset bytes
      some (.udp { connection with tun_recv_buffer := buffer })
  | .tcp connection => do
      let buffer ← connection.tun_recv_buffer.store? offset bytes
      some (.tcp { connection with tun_recv_buffer := buffer })

def Send
    (aead : Aead 16)
    (self : Connection Endpoint)
    (size : Nat)
    (draw : SendDraw) :
    Except Fault (Connection Endpoint × Option (List UInt8)) :=
  match self with
  | .udp connection =>
      match connection.Send aead size draw with
      | none => .error .outOfBounds
      | some (after, datagram) => .ok (.udp after, some datagram.bytes)
  | .tcp connection =>
      match connection.Send aead size draw with
      | .error fault => .error fault
      | .ok (after, _, frame) => .ok (.tcp after, some frame)

def SendTo
    (aead : Aead 16)
    (self : Connection Endpoint)
    (size : Nat)
    (draw : SendDraw) :
    Except Fault (Connection Endpoint × Option (List UInt8)) :=
  match self with
  | .udp connection =>
      match connection.SendTo aead size draw with
      | none => .error .outOfBounds
      | some (after, datagram) => .ok (.udp after, some datagram.bytes)
  | .tcp connection =>
      match connection.SendTo aead size draw with
      | .error fault => .error fault
      | .ok (after, writes) =>
          .ok (.tcp after, writes.map fun write => write.2)

end Connection

namespace Client

/-- `Client::Run` parses the local address. -/
def ofContext
    (inet_addr : String → List UInt8)
    (detail : ContextDetail) : Client where
  client_tun_ip_integer := inet_addr detail.local_tun_ip
  IPv6 := detail.ipv6

/-- The TUN loop; `deviceHeader` is what the device puts before the packet. -/
def tunTurn
    (aead : Aead 16)
    (platform : Platform)
    (self : Client)
    (connection : Connection Endpoint)
    (deviceHeader packet : List UInt8)
    (draw : SendDraw) :
    Except Fault (Connection Endpoint × Option (List UInt8)) :=
  match
      connection.readTunAt (Size - TUN_PACKET_HL platform)
        (deviceHeader ++ packet) with
  | none => .error .outOfBounds
  | some ready =>
      if self.forwardsToServer ready.members.tun_recv_buffer then
        ready.Send aead
          ((deviceHeader ++ packet).length - TUN_PACKET_HL platform) draw
      else
        .ok (ready, none)

/-- The word the device expects before a packet of its version. -/
def deviceWord (conn_recv_buffer : PacketBuffer) : List UInt8 :=
  if ip_v conn_recv_buffer = 4 then
    word32 33554432
  else if ip_v conn_recv_buffer = 6 then
    word32 503316480
  else
    []

/-- What the receive loop writes to the TUN device. -/
def deviceBytes
    (platform : Platform)
    (conn_recv_buffer : PacketBuffer)
    (bytes_read : Nat) : Option (List UInt8) :=
  match platform with
  | .linux =>
      conn_recv_buffer.load? Size bytes_read
  | .apple => do
      let header ←
        conn_recv_buffer.store? (Size - TUN_PACKET_HL .apple)
          (deviceWord conn_recv_buffer)
      header.load? (Size - TUN_PACKET_HL .apple)
        (bytes_read + TUN_PACKET_HL .apple)

/-- The receive loop over UDP; `arrival` is `none` after an error. -/
def receiveTurn
    [DecidableEq Endpoint]
    (aead : Aead 16)
    (platform : Platform)
    (mtu : Nat)
    (connection : UDPConnection Endpoint)
    (arrival : Option (Endpoint × List UInt8)) :
    Except Fault (UDPConnection Endpoint × Option (List UInt8)) :=
  match
      connection.Receive aead ((mtu + Size) % 2 ^ 32) arrival with
  | none => .error .outOfBounds
  | some (after, bytes_read) =>
      if arrival.isNone then
        .ok (after, none)
      else if bytes_read = 0 then
        .ok (after, none)
      else if bytes_read = -1 then
        .ok (after, none)
      else
        match
            deviceBytes platform after.conn_recv_buffer
              bytes_read.toNat with
        | none => .error .outOfBounds
        | some bytes => .ok (after, some bytes)

end Client

namespace Server

def tunTurn
    (aead : Aead 16)
    (self : Server)
    (connection : Connection Endpoint)
    (packet : List UInt8)
    (draw : SendDraw) :
    Except Fault (Connection Endpoint × Option (List UInt8)) :=
  match connection.readTunAt Size packet with
  | none => .error .outOfBounds
  | some ready =>
      if self.forwardsToClient ready.members.tun_recv_buffer then
        ready.SendTo aead packet.length draw
      else
        .ok (ready, none)

/-- The receive loop over UDP; `arrival` is `none` after an error. -/
def receiveTurn
    (aead : Aead 16)
    (self : Server)
    (mtu : Nat)
    (connection : UDPConnection Endpoint)
    (arrival : Option (Endpoint × List UInt8)) :
    Except Fault (UDPConnection Endpoint × Option (List UInt8)) :=
  match
      connection.ReceiveFrom aead ((mtu + Size) % 2 ^ 32) arrival with
  | none => .error .outOfBounds
  | some (after, bytes_read) =>
      if arrival.isNone then
        .ok (after, none)
      else if bytes_read = -1 then
        .ok (after, none)
      else if bytes_read = 0 then
        .ok (after, none)
      else if self.forwardsToTun after.conn_recv_buffer then
        match after.conn_recv_buffer.load? Size bytes_read.toNat with
        | none => .error .outOfBounds
        | some bytes => .ok (after, some bytes)
      else
        .ok (after, none)

end Server

section Inside

variable {aead : Aead 16}

/-- A size up to that of the scratch array is sealed. -/
theorem IConnection.encryptFrame_isSome
    (aead : Aead 16)
    (self : IConnection)
    {size : Nat}
    (draw : SendDraw)
    (fits : size ≤ MAX_BUFFSIZE) :
    (self.encryptFrame aead size draw).isSome := by
  have length : (self.tun_recv_buffer.slice Size size).length = size :=
    Buffer.length_slice _ _ _
  have small : size % 2 ^ 32 = size := by
    simp only [MAX_BUFFSIZE] at fits
    omega
  obtain ⟨result, sealed, _⟩ :=
    self.encryptFrame_spec aead (self.tun_recv_buffer.slice Size size)
      size draw (by rw [length, small]) (by rw [length])
      (by rw [length]; exact fits)
  rw [sealed]
  rfl

/-- What is decrypted is no longer than the scratch array. -/
theorem IConnection.decryptFrame_le
    {self after : IConnection}
    {value : Int}
    (decrypted : self.decryptFrame aead = some (after, value)) :
    value ≤ MAX_BUFFSIZE := by
  unfold decryptFrame at decrypted
  simp only at decrypted
  split at decrypted
  · obtain ⟨_, rfl⟩ := Prod.mk.inj (Option.some.inj decrypted)
    exact Int.natCast_nonneg _
  · rcases self.protocol.DecryptPayload_cases aead
        (self.protocol.DecryptHeader aead self.conn_recv_buffer).1 with
        ⟨plaintext, fits, _, _, accepts⟩ | rejects
    · have behind :=
        PAYLOAD_LENGTH_overwrite
          (self.protocol.DecryptHeader aead self.conn_recv_buffer).1
          plaintext (Nat.le_refl _)
      simp only [accepts, Option.bind_eq_bind, Option.bind_some,
        if_true] at decrypted
      obtain ⟨_, rfl⟩ := Prod.mk.inj (Option.some.inj decrypted)
      rw [behind]
      exact Int.ofNat_le.mpr fits
    · simp only [rejects, Option.bind_eq_bind, Option.bind_some,
        Bool.false_eq_true, if_false] at decrypted
      obtain ⟨_, rfl⟩ := Prod.mk.inj (Option.some.inj decrypted)
      exact Int.natCast_nonneg _

theorem UDPConnection.Receive_le
    [DecidableEq Endpoint]
    {self after : UDPConnection Endpoint}
    {size : Nat}
    {arrival : Option (Endpoint × List UInt8)}
    {value : Int}
    (received : self.Receive aead size arrival = some (after, value)) :
    value ≤ MAX_BUFFSIZE := by
  simp only [UDPConnection.Receive, Option.bind_eq_bind,
    Option.bind_eq_some_iff] at received
  obtain ⟨arrived, _, resumed⟩ := received
  unfold resumeReceive at resumed
  split at resumed
  · obtain ⟨_, rfl⟩ := Prod.mk.inj (Option.some.inj resumed)
    simp only [MAX_BUFFSIZE]
    omega
  · simp only [Option.bind_eq_bind, Option.bind_eq_some_iff] at resumed
    obtain ⟨⟨decoded, result⟩, decrypted, same⟩ := resumed
    obtain ⟨_, rfl⟩ := Prod.mk.inj (Option.some.inj same)
    exact IConnection.decryptFrame_le decrypted

theorem UDPConnection.ReceiveFrom_le
    {self after : UDPConnection Endpoint}
    {size : Nat}
    {arrival : Option (Endpoint × List UInt8)}
    {value : Int}
    (received :
      self.ReceiveFrom aead size arrival = some (after, value)) :
    value ≤ MAX_BUFFSIZE := by
  simp only [UDPConnection.ReceiveFrom, resumeReceiveFrom,
    Option.bind_eq_bind, Option.bind_eq_some_iff] at received
  obtain ⟨arrived, _, ⟨decoded, result⟩, decrypted, same⟩ := received
  obtain ⟨_, rfl⟩ := Prod.mk.inj (Option.some.inj same)
  exact IConnection.decryptFrame_le decrypted

/-- The packet and what the device puts before it fit the TUN buffer. -/
theorem Connection.readTunAt_isSome
    (self : Connection Endpoint)
    {offset : Nat}
    {bytes : List UInt8}
    (inside : offset + bytes.length ≤ 2000) :
    (self.readTunAt offset bytes).isSome := by
  cases self with
  | udp connection =>
      simp [readTunAt, Buffer.store?_eq_some _ inside]
  | tcp connection =>
      simp [readTunAt, Buffer.store?_eq_some _ inside]

/-- A connection without a socket may fail otherwise. -/
theorem TCPConnection.Send_inside
    (aead : Aead 16)
    (self : TCPConnection)
    {size : Nat}
    (draw : SendDraw)
    (fits : size ≤ MAX_BUFFSIZE) :
    self.Send aead size draw ≠ .error .outOfBounds := by
  obtain ⟨⟨after, frame⟩, sealed⟩ :=
    Option.isSome_iff_exists.mp
      (self.encryptFrame_isSome aead draw fits)
  simp only [TCPConnection.Send, sealed]
  cases self.conn_socket with
  | none =>
      intro fails
      cases fails
  | some socket =>
      intro fails
      cases fails

theorem TCPConnection.SendTo_inside
    (aead : Aead 16)
    (self : TCPConnection)
    {size : Nat}
    (draw : SendDraw)
    (fits : size ≤ MAX_BUFFSIZE) :
    self.SendTo aead size draw ≠ .error .outOfBounds := by
  have inside := self.Send_inside aead draw fits
  unfold TCPConnection.SendTo
  split
  · split
    · rename_i fault fails
      rw [fails] at inside
      simpa using inside
    · exact nofun
  · exact nofun

theorem Connection.Send_inside
    (aead : Aead 16)
    (self : Connection Endpoint)
    {size : Nat}
    (draw : SendDraw)
    (fits : size ≤ MAX_BUFFSIZE) :
    self.Send aead size draw ≠ .error .outOfBounds := by
  cases self with
  | udp connection =>
      obtain ⟨⟨after, frame⟩, sealed⟩ :=
        Option.isSome_iff_exists.mp
          (connection.encryptFrame_isSome aead draw fits)
      simp [Connection.Send, UDPConnection.Send, sealed]
  | tcp connection =>
      have inside := connection.Send_inside aead draw fits
      simp only [Connection.Send]
      split
      · rename_i fault fails
        rw [fails] at inside
        simpa using inside
      · intro fails
        cases fails

theorem Connection.SendTo_inside
    (aead : Aead 16)
    (self : Connection Endpoint)
    {size : Nat}
    (draw : SendDraw)
    (fits : size ≤ MAX_BUFFSIZE) :
    self.SendTo aead size draw ≠ .error .outOfBounds := by
  cases self with
  | udp connection =>
      obtain ⟨⟨after, frame⟩, sealed⟩ :=
        Option.isSome_iff_exists.mp
          (connection.encryptFrame_isSome aead draw fits)
      simp [Connection.SendTo, UDPConnection.SendTo, sealed]
  | tcp connection =>
      have inside := connection.SendTo_inside aead draw fits
      simp only [Connection.SendTo]
      split
      · rename_i fault fails
        rw [fails] at inside
        simpa using inside
      · intro fails
        cases fails

end Inside

section Turns

variable
    {aead : Aead 16}
    {platform : Platform}

theorem TUN_PACKET_HL_le (platform : Platform) :
    TUN_PACKET_HL platform ≤ 4 := by
  cases platform with
  | linux => exact Nat.zero_le _
  | apple => exact Nat.le_refl _

theorem Client.tunTurn_inside
    (self : Client)
    (connection : Connection Endpoint)
    {deviceHeader packet : List UInt8}
    (draw : SendDraw)
    (header : deviceHeader.length = TUN_PACKET_HL platform)
    (fits : packet.length ≤ MAX_BUFFSIZE) :
    self.tunTurn aead platform connection deviceHeader packet draw ≠
      .error .outOfBounds := by
  have small := TUN_PACKET_HL_le platform
  have total :
      (deviceHeader ++ packet).length - TUN_PACKET_HL platform =
        packet.length := by
    rw [List.length_append, header, Nat.add_sub_cancel_left]
  have inside :
      Size - TUN_PACKET_HL platform + (deviceHeader ++ packet).length ≤
        2000 := by
    rw [List.length_append, header]
    simp only [Size, MAX_BUFFSIZE] at *
    omega
  obtain ⟨ready, read⟩ :=
    Option.isSome_iff_exists.mp (connection.readTunAt_isSome inside)
  simp only [Client.tunTurn, read, total]
  split
  · exact ready.Send_inside aead draw fits
  · exact nofun

theorem Server.tunTurn_inside
    (self : Server)
    (connection : Connection Endpoint)
    {packet : List UInt8}
    (draw : SendDraw)
    (fits : packet.length ≤ MAX_BUFFSIZE) :
    self.tunTurn aead connection packet draw ≠ .error .outOfBounds := by
  have inside : Size + packet.length ≤ 2000 := by
    simp only [Size, MAX_BUFFSIZE] at *
    omega
  obtain ⟨ready, read⟩ :=
    Option.isSome_iff_exists.mp (connection.readTunAt_isSome inside)
  simp only [Server.tunTurn, read]
  split
  · exact ready.SendTo_inside aead draw fits
  · exact nofun

theorem Client.deviceBytes_isSome
    (platform : Platform)
    (conn_recv_buffer : PacketBuffer)
    {bytes_read : Nat}
    (fits : bytes_read ≤ MAX_BUFFSIZE) :
    (deviceBytes platform conn_recv_buffer bytes_read).isSome := by
  cases platform with
  | linux =>
      have inside : Size + bytes_read ≤ 2000 := by
        simp only [Size, MAX_BUFFSIZE] at *
        omega
      simp [deviceBytes, Buffer.load?_eq_some _ inside]
  | apple =>
      have word : (deviceWord conn_recv_buffer).length ≤ 4 := by
        unfold deviceWord
        split
        · exact Nat.le_refl _
        · split
          · exact Nat.le_refl _
          · exact Nat.zero_le _
      have front :
          Size - TUN_PACKET_HL .apple +
              (deviceWord conn_recv_buffer).length ≤
            2000 := by
        simp only [Size, TUN_PACKET_HL]
        omega
      have inside :
          Size - TUN_PACKET_HL .apple +
              (bytes_read + TUN_PACKET_HL .apple) ≤
            2000 := by
        simp only [Size, TUN_PACKET_HL, MAX_BUFFSIZE] at *
        omega
      simp only [deviceBytes, Buffer.store?_eq_some _ front,
        Option.bind_eq_bind, Option.bind_some,
        Buffer.load?_eq_some _ inside]
      rfl

variable {mtu : Nat}

/-- The reads are limited by the MTU, the packets by the scratch array. -/
theorem Client.receiveTurn_inside
    [DecidableEq Endpoint]
    (connection : UDPConnection Endpoint)
    (arrival : Option (Endpoint × List UInt8))
    (small : mtu ≤ MAX_BUFFSIZE) :
    receiveTurn aead platform mtu connection arrival ≠
      .error .outOfBounds := by
  have fits : (mtu + Size) % 2 ^ 32 ≤ 2000 := by
    simp only [Size, MAX_BUFFSIZE] at *
    omega
  obtain ⟨⟨after, bytes_read⟩, received⟩ :=
    Option.isSome_iff_exists.mp
      (connection.Receive_isSome aead fits arrival)
  have short : bytes_read.toNat ≤ MAX_BUFFSIZE :=
    Int.toNat_le.mpr (UDPConnection.Receive_le received)
  obtain ⟨bytes, written⟩ :=
    Option.isSome_iff_exists.mp
      (deviceBytes_isSome platform after.conn_recv_buffer short)
  simp only [receiveTurn, received, written]
  split
  · exact nofun
  · split
    · exact nofun
    · split
      · exact nofun
      · exact nofun

theorem Server.receiveTurn_inside
    (self : Server)
    (connection : UDPConnection Endpoint)
    (arrival : Option (Endpoint × List UInt8))
    (small : mtu ≤ MAX_BUFFSIZE) :
    self.receiveTurn aead mtu connection arrival ≠
      .error .outOfBounds := by
  have fits : (mtu + Size) % 2 ^ 32 ≤ 2000 := by
    simp only [Size, MAX_BUFFSIZE] at *
    omega
  obtain ⟨⟨after, bytes_read⟩, received⟩ :=
    Option.isSome_iff_exists.mp
      (connection.ReceiveFrom_isSome aead fits arrival)
  have inside : Size + bytes_read.toNat ≤ 2000 := by
    have short := UDPConnection.ReceiveFrom_le received
    simp only [Size, MAX_BUFFSIZE] at *
    omega
  simp only [Server.receiveTurn, received,
    Buffer.load?_eq_some _ inside]
  split
  · exact nofun
  · split
    · exact nofun
    · split
      · exact nofun
      · split
        · exact nofun
        · exact nofun

end Turns

/-- An IPv4 packet with `rest` behind its fixed header. -/
def ipv4Packet (source destination rest : List UInt8) : List UInt8 :=
  69 :: (List.replicate 11 0 ++ (source ++ (destination ++ rest)))

section LongPacket

variable
    {aead : Aead 16}
    {source destination rest : List UInt8}
    {header : PacketBuffer}

theorem length_ipv4Packet
    (sourceLength : source.length = 4)
    (destinationLength : destination.length = 4) :
    (ipv4Packet source destination rest).length = 20 + rest.length := by
  simp only [ipv4Packet, List.length_cons, List.length_append,
    List.length_replicate, sourceLength, destinationLength]
  omega

theorem version_ipv4Packet :
    version (ipv4Packet source destination rest) = 4 := by
  simp [version, ipv4Packet]

theorem source_ipv4Packet (length : source.length = 4) :
    IpPacket.source (ipv4Packet source destination rest) = source := by
  have behind :
      (ipv4Packet source destination rest).drop 12 =
        source ++ (destination ++ rest) := by
    rw [ipv4Packet, ← List.cons_append]
    exact List.drop_left' (by simp)
  rw [IpPacket.source, if_pos version_ipv4Packet, behind, ← length]
  exact List.take_left

theorem destination_ipv4Packet
    (sourceLength : source.length = 4)
    (destinationLength : destination.length = 4) :
    IpPacket.destination (ipv4Packet source destination rest) =
      destination := by
  have behind :
      (ipv4Packet source destination rest).drop 16 =
        destination ++ rest := by
    rw [ipv4Packet, ← List.append_assoc, ← List.cons_append]
    exact List.drop_left' (by simp [sourceLength])
  rw [IpPacket.destination, if_pos version_ipv4Packet, behind,
    ← destinationLength]
  exact List.take_left

/-- The TUN loop of the client lets its own packets through. -/
theorem Client.forwardsToServer_ipv4
    (self : Client)
    {packet : List UInt8}
    (held : header.slice Size packet.length = packet)
    (isFour : version packet = 4)
    (complete : 20 ≤ packet.length)
    (own : IpPacket.source packet = self.client_tun_ip_integer) :
    self.forwardsToServer header = true := by
  have isVersion : ip_v header = 4 :=
    (ip_v_packet held (by omega)).trans isFour
  have sameSource : ip_src header = self.client_tun_ip_integer := by
    rw [← own, ip_src, slice_packet held (by omega), IpPacket.source,
      if_pos isFour]
  simp [forwardsToServer, isVersion, sameSource]

/-- The packet that was read lies behind the header space. -/
theorem Connection.readTunAt_holds
    {self ready : Connection Endpoint}
    {front : Nat}
    {before packet : List UInt8}
    (read : self.readTunAt (Size - front) (before ++ packet) = some ready)
    (length : before.length = front)
    (small : front ≤ Size) :
    ready.members.tun_recv_buffer.slice Size packet.length = packet := by
  have stored :
      self.members.tun_recv_buffer.store? (Size - front)
          (before ++ packet) =
        some ready.members.tun_recv_buffer := by
    cases self with
    | udp connection =>
        simp only [readTunAt, Option.bind_eq_bind,
          Option.bind_eq_some_iff, Option.some.injEq] at read
        obtain ⟨buffer, stored, rfl⟩ := read
        exact stored
    | tcp connection =>
        simp only [readTunAt, Option.bind_eq_bind,
          Option.bind_eq_some_iff, Option.some.injEq] at read
        obtain ⟨buffer, stored, rfl⟩ := read
        exact stored
  obtain ⟨inside, overwritten⟩ := Buffer.store?_eq_some_iff.mp stored
  have position : Size - (Size - front) = before.length := by omega
  rw [List.length_append] at inside
  rw [← overwritten,
    Buffer.slice_overwrite_inside _
      (by rw [List.length_append]; exact inside)
      (Nat.sub_le _ _) (by rw [List.length_append]; omega),
    position, List.drop_left, List.take_length]

theorem Connection.Send_outside
    (self : Connection Endpoint)
    {size : Nat}
    (draw : SendDraw)
    (long : MAX_BUFFSIZE < size % 2 ^ 32) :
    self.Send aead size draw = .error .outOfBounds := by
  cases self with
  | udp connection =>
      simp [Connection.Send, UDPConnection.Send,
        connection.encryptFrame_outOfBounds aead draw long]
  | tcp connection =>
      simp [Connection.Send, TCPConnection.Send,
        connection.encryptFrame_outOfBounds aead draw long]

theorem Client.tunTurn_outside
    (self : Client)
    (platform : Platform)
    (connection : Connection Endpoint)
    {deviceHeader packet : List UInt8}
    (draw : SendDraw)
    (header : deviceHeader.length = TUN_PACKET_HL platform)
    (isFour : version packet = 4)
    (own : IpPacket.source packet = self.client_tun_ip_integer)
    (long : MAX_BUFFSIZE < packet.length % 2 ^ 32) :
    self.tunTurn aead platform connection deviceHeader packet draw =
      .error .outOfBounds := by
  have small := TUN_PACKET_HL_le platform
  have total :
      (deviceHeader ++ packet).length - TUN_PACKET_HL platform =
        packet.length := by
    rw [List.length_append, header, Nat.add_sub_cancel_left]
  unfold Client.tunTurn
  split
  · rfl
  · rename_i ready read
    have held :=
      Connection.readTunAt_holds read header
        (by simp only [Size]; omega)
    have complete : 20 ≤ packet.length := by
      simp only [MAX_BUFFSIZE] at long
      omega
    rw [if_pos (self.forwardsToServer_ipv4 held isFour complete own),
      total]
    exact ready.Send_outside draw long

/-- `SendTo` has a client to send to, or does not look for one. -/
def Connection.canSendTo : Connection Endpoint → Bool
  | .udp _ => true
  | .tcp connection => connection.selected

theorem Connection.SendTo_outside
    (self : Connection Endpoint)
    {size : Nat}
    (draw : SendDraw)
    (selected : self.canSendTo)
    (long : MAX_BUFFSIZE < size % 2 ^ 32) :
    self.SendTo aead size draw = .error .outOfBounds := by
  cases self with
  | udp connection =>
      simp [Connection.SendTo, UDPConnection.SendTo,
        connection.encryptFrame_outOfBounds aead draw long]
  | tcp connection =>
      have isSelected : connection.selected = true := selected
      simp [Connection.SendTo, TCPConnection.SendTo, TCPConnection.Send,
        isSelected, connection.encryptFrame_outOfBounds aead draw long]

theorem Connection.readTunAt_canSendTo
    {self ready : Connection Endpoint}
    {offset : Nat}
    {bytes : List UInt8}
    (read : self.readTunAt offset bytes = some ready) :
    ready.canSendTo = self.canSendTo := by
  cases self with
  | udp connection =>
      simp only [readTunAt, Option.bind_eq_bind,
        Option.bind_eq_some_iff, Option.some.injEq] at read
      obtain ⟨buffer, _, rfl⟩ := read
      rfl
  | tcp connection =>
      simp only [readTunAt, Option.bind_eq_bind,
        Option.bind_eq_some_iff, Option.some.injEq] at read
      obtain ⟨buffer, _, rfl⟩ := read
      rfl

theorem Server.tunTurn_outside
    (self : Server)
    (connection : Connection Endpoint)
    {packet : List UInt8}
    (draw : SendDraw)
    (selected : connection.canSendTo)
    (isFour : version packet = 4)
    (own : IpPacket.destination packet = self.client_tun_ip_integer)
    (long : MAX_BUFFSIZE < packet.length % 2 ^ 32) :
    self.tunTurn aead connection packet draw = .error .outOfBounds := by
  unfold Server.tunTurn
  split
  · rfl
  · rename_i ready read
    have fromFront :
        connection.readTunAt (Size - 0) ([] ++ packet) = some ready :=
      read
    have held :=
      Connection.readTunAt_holds fromFront rfl (Nat.zero_le _)
    have complete : Complete packet := by
      simp only [MAX_BUFFSIZE] at long
      exact Or.inl ⟨isFour, by omega⟩
    have passes : self.forwardsToClient ready.members.tun_recv_buffer := by
      rw [self.forwardsToClient_packet held complete, own, clientAddress,
        if_pos isFour]
      exact decide_eq_true rfl
    rw [if_pos passes]
    exact ready.SendTo_outside draw
      ((Connection.readTunAt_canSendTo read).trans selected) long

end LongPacket

/-! ## The data path of a configuration -/

/--
No turn of the loops leaves an array: whatever is read from the TUN device, up
to the MTU, and whatever datagram arrives, in any state of the connection that
the configuration asks for.
-/
structure DataPathInside
    (Endpoint : Type)
    [DecidableEq Endpoint]
    (aead : Aead 16)
    (platform : Platform)
    (inet_addr : String → List UInt8)
    (inet_pton : String → Option (List UInt8))
    (uninitialized : List UInt8)
    (detail : ContextDetail) : Prop where
  clientTun :
    detail.is_server = false →
      ∀ (connection : Connection Endpoint)
        (deviceHeader packet : List UInt8)
        (draw : SendDraw),
        connection.isOf detail.conn_protocol →
        deviceHeader.length = TUN_PACKET_HL platform →
        packet.length ≤ detail.mtu →
        (Client.ofContext inet_addr detail).tunTurn aead platform
            connection deviceHeader packet draw ≠
          .error .outOfBounds
  clientReceive :
    detail.is_server = false →
      detail.conn_protocol = .UDP →
      ∀ (connection : UDPConnection Endpoint)
        (arrival : Option (Endpoint × List UInt8)),
        Client.receiveTurn aead platform detail.mtu connection arrival ≠
          .error .outOfBounds
  serverTun :
    detail.is_server = true →
      ∀ (connection : Connection Endpoint)
        (packet : List UInt8)
        (draw : SendDraw),
        connection.isOf detail.conn_protocol →
        packet.length ≤ detail.mtu →
        (Server.ofContext inet_addr inet_pton uninitialized
            detail.remote_tun_ip detail.remote_tun_ip6).tunTurn aead
            connection packet draw ≠
          .error .outOfBounds
  serverReceive :
    detail.is_server = true →
      detail.conn_protocol = .UDP →
      ∀ (connection : UDPConnection Endpoint)
        (arrival : Option (Endpoint × List UInt8)),
        (Server.ofContext inet_addr inet_pton uninitialized
            detail.remote_tun_ip detail.remote_tun_ip6).receiveTurn aead
            detail.mtu connection arrival ≠
          .error .outOfBounds

/-- A connection of either protocol over which the server can send. -/
theorem exists_connection
    (Endpoint : Type)
    {detail : ContextDetail}
    (supported : detail.conn_protocol ≠ .UTCP) :
    ∃ connection : Connection Endpoint,
      connection.isOf detail.conn_protocol ∧ connection.canSendTo := by
  cases protocol : detail.conn_protocol with
  | UDP =>
      exact ⟨.udp (UDPConnection.create []), rfl, rfl⟩
  | TCP =>
      exact ⟨.tcp
        { TCPConnection.create [] with
          selected := true
          conn_socket := some 0 }, rfl, rfl⟩
  | UTCP => exact (supported protocol).elim

section DataPath

variable
    [DecidableEq Endpoint]
    {aead : Aead 16}
    {platform : Platform}
    {inet_addr : String → List UInt8}
    {inet_pton : String → Option (List UInt8)}
    {uninitialized : List UInt8}
    {detail : ContextDetail}

theorem DataPathInside.of_mtu
    (small : detail.mtu ≤ MAX_BUFFSIZE) :
    DataPathInside Endpoint aead platform inet_addr inet_pton
      uninitialized detail where
  clientTun _ connection _ _ draw _ header fits :=
    Client.tunTurn_inside _ connection draw header
      (Nat.le_trans fits small)
  clientReceive _ _ connection arrival :=
    Client.receiveTurn_inside connection arrival small
  serverTun _ connection _ draw _ fits :=
    Server.tunTurn_inside _ connection draw (Nat.le_trans fits small)
  serverReceive _ _ connection arrival :=
    Server.receiveTurn_inside _ connection arrival small

theorem DataPathInside.mtu_le
    (inet : ∀ text, (inet_addr text).length = 4)
    (supported : detail.conn_protocol ≠ .UTCP)
    (inside :
      DataPathInside Endpoint aead platform inet_addr inet_pton
        uninitialized detail) :
    detail.mtu ≤ MAX_BUFFSIZE := by
  refine Nat.not_lt.mp fun long => ?_
  obtain ⟨connection, isOf, canSendTo⟩ :=
    exists_connection Endpoint supported
  let draw := SendDraw.constant 7
  have restLength : (List.replicate 1481 (0 : UInt8)).length = 1481 :=
    List.length_replicate
  generalize List.replicate 1481 (0 : UInt8) = rest at restLength
  let packet :=
    ipv4Packet (inet_addr detail.local_tun_ip)
      (inet_addr detail.remote_tun_ip) rest
  have length : packet.length = 1501 := by
    rw [length_ipv4Packet (inet _) (inet _), restLength]
  have accepted : packet.length ≤ detail.mtu := by
    simp only [MAX_BUFFSIZE] at long
    omega
  have exceeds : MAX_BUFFSIZE < packet.length % 2 ^ 32 := by
    simp only [length, MAX_BUFFSIZE]
    omega
  cases role : detail.is_server with
  | false =>
      have header :
          (List.replicate (TUN_PACKET_HL platform) (0 : UInt8)).length =
            TUN_PACKET_HL platform :=
        List.length_replicate
      exact inside.clientTun role connection _ packet draw isOf header
        accepted
        (Client.tunTurn_outside _ platform connection draw header
          version_ipv4Packet (source_ipv4Packet (inet _)) exceeds)
  | true =>
      exact inside.serverTun role connection packet draw isOf accepted
        (Server.tunTurn_outside _ connection draw canSendTo
          version_ipv4Packet
          (destination_ipv4Packet (inet _) (inet _)) exceeds)

end DataPath

/--
For every accepted configuration: the loops stay inside the arrays exactly if
the MTU that the configuration asks for is at most the size of the scratch
arrays.
-/
theorem dataPath_inside_iff
    (Endpoint : Type)
    [DecidableEq Endpoint]
    (aead : Aead 16)
    (system : System)
    (h : YamlHelper)
    (inet_addr : String → List UInt8)
    (inet_pton : String → Option (List UInt8))
    (uninitialized : List UInt8)
    {context : Context}
    (inet : ∀ text, (inet_addr text).length = 4)
    (accepted : Context.InitByFile system h {} = some context) :
    DataPathInside Endpoint aead system.platform inet_addr inet_pton
        uninitialized context.detail ↔
      Context.configuredMtu h ≤ MAX_BUFFSIZE := by
  rw [← Context.InitByFile_mtu accepted]
  exact ⟨DataPathInside.mtu_le inet
    (Context.InitByFile_conn_protocol accepted), DataPathInside.of_mtu⟩

def exampleSystem : System where
  platform := .linux
  resolve_ip name := some name
  dev_net_tun := 3
  TUNSETIFF name :=
    if name = "" ∨ '%' ∈ name.toList then none else some name
  control_socket _ := 3
  CTLIOCGINFO _ := true
  connect _ := true
  SIOCSIFMTU name mtu := name ≠ "" ∧ 68 ≤ mtu ∧ mtu ≤ 65535
  GetDefaultInterfaceName := "eth0"
  GetDefaultGatewayIp := "10.0.0.254"

/-- A file with these keys and values. -/
def YamlHelper.ofSettings
    (settings : List (String × String)) : YamlHelper where
  ParseString key :=
    match settings.lookup key with
    | some value => ⟨value, false⟩
    | none => ⟨"", true⟩
  ParseUInt16 key :=
    match settings.lookup key with
    | some value => ⟨UInt16.ofInt (atoi value), false⟩
    | none => ⟨0, true⟩

def serverFile (mtu : String) : YamlHelper :=
  .ofSettings
    [("is_server", "true"), ("conn_key", "1"), ("conn_protocol", "udp"),
      ("server_ip_or_name", "10.0.0.1"), ("server_port", "1800"),
      ("tun.mtu", mtu)]

/-- `INADDR_NONE` for every other text. -/
def exampleInetAddr (text : String) : List UInt8 :=
  if text = DEFAULT_CLIENT_IP then
    [192, 168, 192, 100]
  else
    [255, 255, 255, 255]

def exampleInetPton (text : String) : Option (List UInt8) :=
  if text = "64:ff9b::192.168.192.100" then
    some [0, 100, 255, 155, 0, 0, 0, 0, 0, 0, 0, 0, 192, 168, 192, 100]
  else
    none

/-- A packet of 1501 bytes to the client. -/
def longPacket : List UInt8 :=
  ipv4Packet [8, 8, 8, 8] [192, 168, 192, 100] (List.replicate 1481 0)

theorem mtu1501_outside :
    longPacket.length = 1501 ∧
    ∃ context,
      Context.InitByFile exampleSystem (serverFile "1501") {} =
          some context ∧
        context.detail.mtu = 1501 ∧
        (Server.ofContext exampleInetAddr exampleInetPton []
            context.detail.remote_tun_ip
            context.detail.remote_tun_ip6).tunTurn Aead.checksumAead
            (.udp (UDPConnection.create [49]) : Connection Nat)
            longPacket (SendDraw.constant 7) =
          .error .outOfBounds ∧
        ¬ DataPathInside Nat Aead.checksumAead exampleSystem.platform
          exampleInetAddr exampleInetPton [] context.detail := by
  have length : longPacket.length = 1501 := by
    rw [longPacket, length_ipv4Packet rfl rfl, List.length_replicate]
  have initialised :
      (Context.InitByFile exampleSystem (serverFile "1501") {}).map
          (fun context =>
            (context.detail.is_server, context.detail.conn_protocol,
              context.detail.mtu, context.detail.remote_tun_ip)) =
        some (true, .UDP, 1501, DEFAULT_CLIENT_IP) := by
    decide +kernel
  obtain ⟨context, accepted, fields⟩ :=
    Option.map_eq_some_iff.mp initialised
  simp only [Prod.mk.injEq] at fields
  obtain ⟨isServer, protocol, mtu, remote⟩ := fields
  have outside :
      (Server.ofContext exampleInetAddr exampleInetPton []
          context.detail.remote_tun_ip
          context.detail.remote_tun_ip6).tunTurn Aead.checksumAead
          (.udp (UDPConnection.create [49]) : Connection Nat)
          longPacket (SendDraw.constant 7) =
        .error .outOfBounds := by
    refine Server.tunTurn_outside _ _ _ rfl version_ipv4Packet ?_ ?_
    · rw [remote]
      exact destination_ipv4Packet rfl rfl
    · simp only [length, MAX_BUFFSIZE]
      omega
  exact ⟨length, context, accepted, mtu, outside, fun inside =>
    inside.serverTun isServer _ _ _ (by rw [protocol]; rfl)
      (Nat.le_of_eq (length.trans mtu.symm)) outside⟩

theorem dataPath_inside_iff_auto :
    ∃ context,
      Context.InitByFile exampleSystem (serverFile "auto") {} =
          some context ∧
        (DataPathInside Nat Aead.checksumAead exampleSystem.platform
            exampleInetAddr exampleInetPton [] context.detail ↔
          Context.configuredMtu (serverFile "auto") ≤ MAX_BUFFSIZE) := by
  have initialised :
      (Context.InitByFile exampleSystem (serverFile "auto") {}).isSome := by
    decide +kernel
  obtain ⟨context, accepted⟩ := Option.isSome_iff_exists.mp initialised
  have inet : ∀ text, (exampleInetAddr text).length = 4 := by
    intro text
    unfold exampleInetAddr
    split
    · rfl
    · rfl
  exact ⟨context, accepted,
    dataPath_inside_iff Nat Aead.checksumAead exampleSystem
      (serverFile "auto") exampleInetAddr exampleInetPton [] inet
      accepted⟩

end Dsvpn
