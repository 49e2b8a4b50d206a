import Dsvpn.UdpRoundTrip

namespace Dsvpn

open ProtocolHeader

/-!
# Which packets the server's loops let through

Both loops look at the IP header behind the protocol header of their buffer:
the receive loop before it writes a packet to the TUN device, the TUN loop
before it hands a packet to `SendTo`.  The decisions are compared with the
addresses that the packet itself carries.
-/

/-- The fields of `iphdr` and `ipv6hdr`, behind the protocol header. -/
def ip_v (header : PacketBuffer) : Nat :=
  (header.get Size).toNat / 16

def ip_src (header : PacketBuffer) : List UInt8 :=
  header.slice (Size + 12) 4

def ip_dst (header : PacketBuffer) : List UInt8 :=
  header.slice (Size + 16) 4

def saddr (header : PacketBuffer) : List UInt8 :=
  header.slice (Size + 8) 16

def daddr (header : PacketBuffer) : List UInt8 :=
  header.slice (Size + 24) 16

/-- The client's tunnel addresses, as `Server::Run` parsed them. -/
structure Server where
  client_tun_ip_integer : List UInt8
  client_tun_ip6_integer : List UInt8
  deriving Repr, DecidableEq

namespace Server

/--
`Server::Run` parses the two configured texts.  When `inet_pton` rejects its
text, the member keeps the bytes it has.
-/
def ofContext
    (inet_addr : String → List UInt8)
    (inet_pton : String → Option (List UInt8))
    (uninitialized : List UInt8)
    (RemoteTunIP RemoteTunIP6 : String) : Server where
  client_tun_ip_integer := inet_addr RemoteTunIP
  client_tun_ip6_integer :=
    (inet_pton RemoteTunIP6).getD uninitialized

/-- The checks of the receive loop on a packet in `conn_recv_buffer`. -/
def forwardsToTun
    (self : Server)
    (conn_recv_buffer : PacketBuffer) : Bool :=
  if ip_v conn_recv_buffer ≠ 4 ∧ ip_v conn_recv_buffer ≠ 6 then
    false
  else if
      ip_v conn_recv_buffer = 4 ∧
        ip_src conn_recv_buffer ≠ self.client_tun_ip_integer then
    false
  else if
      ip_v conn_recv_buffer = 6 ∧
        self.client_tun_ip6_integer ≠ daddr conn_recv_buffer then
    false
  else
    true

/-- The checks of the TUN loop on a packet in `tun_recv_buffer`. -/
def forwardsToClient
    (self : Server)
    (tun_recv_buffer : PacketBuffer) : Bool :=
  if ip_v tun_recv_buffer ≠ 4 ∧ ip_v tun_recv_buffer ≠ 6 then
    false
  else if
      ip_v tun_recv_buffer = 4 ∧
        ip_dst tun_recv_buffer ≠ self.client_tun_ip_integer then
    false
  else if
      ip_v tun_recv_buffer = 6 ∧
        self.client_tun_ip6_integer ≠ daddr tun_recv_buffer then
    false
  else
    true

/--
One turn of the receive loop, once `ReceiveFrom` has returned `bytes_read`
without an error: the packet it writes to the TUN device, if any.
-/
def tunWrite
    (self : Server)
    (bytes_read : Int)
    (conn_recv_buffer : PacketBuffer) : Option (List UInt8) :=
  if bytes_read = -1 then
    none
  else if bytes_read = 0 then
    none
  else if self.forwardsToTun conn_recv_buffer then
    some (conn_recv_buffer.slice Size bytes_read.toNat)
  else
    none

end Server

namespace IpPacket

def version (packet : List UInt8) : Nat :=
  (packet.getD 0 0).toNat / 16

/-- The source address, by the packet's version. -/
def source (packet : List UInt8) : List UInt8 :=
  if version packet = 4 then
    (packet.drop 12).take 4
  else
    (packet.drop 8).take 16

/-- The destination address, by the packet's version. -/
def destination (packet : List UInt8) : List UInt8 :=
  if version packet = 4 then
    (packet.drop 16).take 4
  else
    (packet.drop 24).take 16

/-- An IPv4 or IPv6 packet that has its whole fixed header. -/
def Complete (packet : List UInt8) : Prop :=
  (version packet = 4 ∧ 20 ≤ packet.length) ∨
    (version packet = 6 ∧ 40 ≤ packet.length)

instance (packet : List UInt8) : Decidable (Complete packet) :=
  inferInstanceAs (Decidable (_ ∨ _))

end IpPacket

open IpPacket

/-- The client's tunnel address of the packet's IP version. -/
def Server.clientAddress
    (self : Server)
    (packet : List UInt8) : List UInt8 :=
  if version packet = 4 then
    self.client_tun_ip_integer
  else
    self.client_tun_ip6_integer

section HeaderFields

variable
    {header : PacketBuffer}
    {packet : List UInt8}

/-- A packet behind the protocol header determines the fields inside it. -/
theorem slice_packet
    (held : header.slice Size packet.length = packet)
    {offset length : Nat}
    (inside : offset + length ≤ packet.length) :
    header.slice (Size + offset) length =
      (packet.drop offset).take length := by
  have part := Buffer.take_drop_slice header Size inside
  rw [held] at part
  exact part.symm

theorem ip_v_packet
    (held : header.slice Size packet.length = packet)
    (nonempty : 0 < packet.length) :
    ip_v header = version packet := by
  have first :=
    Buffer.getElem_slice header Size packet.length 0
      (by simpa using nonempty)
  simp only [held, Nat.add_zero] at first
  rw [ip_v, version, ← first, List.getD_eq_getElem?_getD,
    List.getElem?_eq_getElem nonempty, Option.getD_some]

end HeaderFields

namespace Server

/-- The receive loop compares the IPv4 source, but the IPv6 destination. -/
theorem forwardsToTun_packet
    (self : Server)
    {header : PacketBuffer}
    {packet : List UInt8}
    (held : header.slice Size packet.length = packet)
    (complete : Complete packet) :
    self.forwardsToTun header =
      if version packet = 4 then
        decide (source packet = self.client_tun_ip_integer)
      else
        decide (destination packet = self.client_tun_ip6_integer) := by
  rcases complete with ⟨isFour, length⟩ | ⟨isSix, length⟩
  · have isVersion : ip_v header = 4 :=
      (ip_v_packet held (by omega)).trans isFour
    have sameSource : ip_src header = source packet := by
      rw [ip_src, slice_packet held (by omega), source, if_pos isFour]
    simp [forwardsToTun, isVersion, sameSource, isFour]
  · have isVersion : ip_v header = 6 :=
      (ip_v_packet held (by omega)).trans isSix
    have sameDestination : daddr header = destination packet := by
      rw [daddr, slice_packet held (by omega), destination,
        if_neg (by omega)]
    simp [forwardsToTun, isVersion, sameDestination, isSix,
      eq_comm (a := self.client_tun_ip6_integer)]

/-- The TUN loop lets through exactly the packets for the client. -/
theorem forwardsToClient_packet
    (self : Server)
    {header : PacketBuffer}
    {packet : List UInt8}
    (held : header.slice Size packet.length = packet)
    (complete : Complete packet) :
    self.forwardsToClient header =
      decide (destination packet = self.clientAddress packet) := by
  rcases complete with ⟨isFour, length⟩ | ⟨isSix, length⟩
  · have isVersion : ip_v header = 4 :=
      (ip_v_packet held (by omega)).trans isFour
    have sameDestination : ip_dst header = destination packet := by
      rw [ip_dst, slice_packet held (by omega), destination,
        if_pos isFour]
    simp [forwardsToClient, isVersion, sameDestination, isFour,
      clientAddress]
  · have isVersion : ip_v header = 6 :=
      (ip_v_packet held (by omega)).trans isSix
    have sameDestination : daddr header = destination packet := by
      rw [daddr, slice_packet held (by omega), destination,
        if_neg (by omega)]
    simp [forwardsToClient, isVersion, sameDestination, isSix,
      clientAddress, eq_comm (a := self.client_tun_ip6_integer)]

/-- The receive loop writes a complete packet exactly when it lets it through. -/
theorem tunWrite_packet
    (self : Server)
    {header : PacketBuffer}
    {packet : List UInt8}
    (held : header.slice Size packet.length = packet)
    (complete : Complete packet) :
    self.tunWrite packet.length header = some packet ↔
      self.forwardsToTun header = true := by
  have nonempty : 0 < packet.length := by
    rcases complete with ⟨_, length⟩ | ⟨_, length⟩ <;> omega
  unfold tunWrite
  rw [if_neg (by omega), if_neg (by omega), Int.toNat_natCast, held]
  split <;> simp_all

/-- The receive loop looks at nothing before the packet. -/
theorem tunWrite_congr
    (self : Server)
    (bytes_read : Int)
    {first second : PacketBuffer}
    (agree :
      Buffer.AgreeOn (fun index => Size ≤ index) first second) :
    self.tunWrite bytes_read first = self.tunWrite bytes_read second := by
  have sameSlice (offset length : Nat) :
      first.slice (Size + offset) length =
        second.slice (Size + offset) length :=
    agree.slice fun _ behind _ =>
      Nat.le_trans (Nat.le_add_right Size offset) behind
  have packet :
      first.slice Size bytes_read.toNat =
        second.slice Size bytes_read.toNat :=
    sameSlice 0 _
  have sameVersion : ip_v first = ip_v second := by
    rw [ip_v, ip_v, agree Size (Nat.le_refl Size)]
  have sameSource : ip_src first = ip_src second :=
    sameSlice 12 4
  have sameDestination : daddr first = daddr second :=
    sameSlice 24 16
  have decision :
      self.forwardsToTun first = self.forwardsToTun second := by
    unfold forwardsToTun
    rw [sameVersion, sameSource, sameDestination]
  unfold tunWrite
  rw [decision, packet]

/--
For every packet that `ReceiveFrom` can leave in the buffer: the receive loop
writes it to the TUN device exactly when its source is the client's tunnel
address, if and only if it is an IPv4 packet, or an IPv6 packet for which the
source and the destination are or are not the client's address together.
-/
theorem tunWrite_source_iff
    (inet_addr : String → List UInt8)
    (inet_pton : String → Option (List UInt8))
    (uninitialized : List UInt8)
    (RemoteTunIP RemoteTunIP6 : String)
    (address6 : List UInt8)
    (parsed : inet_pton RemoteTunIP6 = some address6)
    (header : PacketBuffer)
    (packet : List UInt8)
    (held : header.slice Size packet.length = packet)
    (complete : Complete packet) :
    let server :=
      ofContext inet_addr inet_pton uninitialized
        RemoteTunIP RemoteTunIP6
    let own :=
      if version packet = 4 then inet_addr RemoteTunIP else address6
    ((server.tunWrite packet.length header = some packet ↔
        source packet = own) ↔
      (version packet = 6 →
        (destination packet = own ↔ source packet = own))) := by
  intro server own
  have sixAddress : server.client_tun_ip6_integer = address6 := by
    simp [server, ofContext, parsed]
  rw [server.tunWrite_packet held complete,
    server.forwardsToTun_packet held complete]
  rcases complete with ⟨isFour, _⟩ | ⟨isSix, _⟩
  · have fourAddress : own = server.client_tun_ip_integer :=
      if_pos isFour
    simp [isFour, fourAddress]
  · have own6 : own = address6 := if_neg (by omega)
    simp [isSix, own6, sixAddress]

/-- The server of a client whose tunnel address ends in 2. -/
def exampleServer : Server where
  client_tun_ip_integer := [10, 0, 0, 2]
  client_tun_ip6_integer :=
    [0, 100, 255, 155, 0, 0, 0, 0, 0, 0, 0, 0, 10, 0, 0, 2]

/-- A bare IPv6 header with the given addresses. -/
def ipv6Packet (saddr daddr : List UInt8) : List UInt8 :=
  [96, 0, 0, 0, 0, 0, 59, 64] ++ saddr ++ daddr

/-- What one turn of the receive loop over UDP does with a sealed packet. -/
def udpTurn
    (aead : Aead 16)
    (server : Server)
    (packet : List UInt8) : Option (Int × Option (List UInt8)) := do
  let connection : UDPConnection Nat := UDPConnection.create [49]
  let (connection, bytes_read) ←
    connection.ReceiveFrom aead 1500
      (some (1, frameBytes aead (AES256GCM.keyOf [49]) packet
        (SendDraw.constant 1)))
  some (bytes_read, server.tunWrite bytes_read connection.conn_recv_buffer)

/--
A packet from the client's own IPv6 address to another host is dropped, and a
packet from another host's address to the client's is written.
-/
theorem tunWrite_ipv6_reversed :
    let own := exampleServer.client_tun_ip6_integer
    let other : List UInt8 := List.replicate 15 32 ++ [1]
    udpTurn Aead.checksumAead exampleServer (ipv6Packet own other) =
        some (40, none) ∧
      source (ipv6Packet own other) = own ∧
      udpTurn Aead.checksumAead exampleServer (ipv6Packet other own) =
        some (40, some (ipv6Packet other own)) ∧
      source (ipv6Packet other own) = other ∧
      other ≠ own := by
  decide +kernel

theorem tunWrite_source_iff_ipv4 :
    let packet : List UInt8 :=
      [69, 0, 0, 20, 0, 0, 0, 0, 64, 17, 0, 0, 10, 0, 0, 2, 8, 8, 8, 8]
    let header : PacketBuffer :=
      Buffer.overwrite ⟨fun _ => 0⟩ Size packet
    let server :=
      ofContext (fun _ => [10, 0, 0, 2])
        (fun _ => some exampleServer.client_tun_ip6_integer) []
        "10.0.0.2" "64:ff9b::10.0.0.2"
    (server.tunWrite packet.length header = some packet ↔
        source packet = [10, 0, 0, 2]) ↔
      (version packet = 6 →
        (destination packet = [10, 0, 0, 2] ↔
          source packet = [10, 0, 0, 2])) :=
  tunWrite_source_iff (fun _ => [10, 0, 0, 2])
    (fun _ => some exampleServer.client_tun_ip6_integer) []
    "10.0.0.2" "64:ff9b::10.0.0.2" exampleServer.client_tun_ip6_integer rfl
    (Buffer.overwrite ⟨fun _ => 0⟩ Size
      [69, 0, 0, 20, 0, 0, 0, 0, 64, 17, 0, 0,
        10, 0, 0, 2, 8, 8, 8, 8])
    [69, 0, 0, 20, 0, 0, 0, 0, 64, 17, 0, 0, 10, 0, 0, 2, 8, 8, 8, 8]
    (Buffer.slice_overwrite_same _ _ _ (by decide))
    (by decide)

end Server

end Dsvpn
