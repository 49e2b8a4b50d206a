import Dsvpn.DatagramLink
import Dsvpn.ServerDirection

namespace Dsvpn

open ProtocolHeader
open IpPacket
open DatagramLink

/-!
# Client and server over a datagram network

The four loops over UDP, with the network between them: the client's and the
server's TUN loop put datagrams on it, their receive loops take some off.  A
datagram may get lost, arrive late, more than once and out of order, and the
client's datagrams may seem to come from anywhere; other datagrams arrive as
well.  Together the loops are two datagram links, one in each direction.
-/

variable {Endpoint : Type}

/-- An error other than this one does not end the server's TUN loop. -/
inductive SendError where
  | bad_file_descriptor
  | other
  deriving Repr, DecidableEq

/--
A connection with the two loops around it.  `arrived` only records which of
the peer's datagrams completed the pending receive.
-/
structure SessionEnd (Coroutine : Type) where
  coroutine : Coroutine
  tunEnded : Bool
  receiveEnded : Bool
  arrived : Option Nat

def SessionEnd.create
    {Coroutine : Type}
    (coroutine : Coroutine) : SessionEnd Coroutine where
  coroutine := coroutine
  tunEnded := false
  receiveEnded := false
  arrived := none

/--
`client` has one entry for each connection that `Reconnect` makes.  `toServer`
and `toClient` are the datagrams sent so far.
-/
structure UdpSession (Endpoint : Type) where
  settings : Client
  addresses : Server
  mtu : Nat
  client : Nat → SessionEnd (UdpReceiver Endpoint)
  server : SessionEnd (UdpServer Endpoint)
  toServer : List (List UInt8)
  toClient : List (List UInt8)
  serverWritten : List (List UInt8)
  clientWritten : List (List UInt8)

/--
`deliver…` names a datagram by its position among those sent.  The `Bool` of
`resume…` says whether a write to the TUN device fails.
-/
inductive UdpSessionEvent (Endpoint : Type) where
  | clientTun
      (connection : Nat)
      (packet : TunPacket)
      (draw : SendDraw)
      (error : Option SendError)
  | clientTunError (connection : Nat)
  | clientReceive (connection : Nat)
  | deliverToClient (connection index : Nat)
  | strayToClient
      (connection : Nat)
      (source : Endpoint)
      (datagram : List UInt8)
  | clientError (connection : Nat) (error : ErrorCode)
  | resumeClient (connection : Nat) (failed : Bool)
  | serverTun
      (packet : TunPacket)
      (draw : SendDraw)
      (error : Option SendError)
  | serverTunError
  | serverReceive
  | deliverToServer (source : Endpoint) (index : Nat)
  | strayToServer (source : Endpoint) (datagram : List UInt8)
  | serverError
  | resumeServer (failed : Bool)

namespace UdpSession

def create
    (conn_key : List UInt8)
    (addresses : Server)
    (IPv6 : Bool)
    (mtu : Nat)
    (endpoint : Endpoint) : UdpSession Endpoint where
  settings := ⟨addresses.client_tun_ip_integer, IPv6⟩
  addresses := addresses
  mtu := mtu
  client := fun _ =>
    SessionEnd.create
      (UdpReceiver.create
        { UDPConnection.create conn_key with
          remote_send_ep := some endpoint })
  server := SessionEnd.create (UdpServer.create conn_key)
  toServer := []
  toClient := []
  serverWritten := []
  clientWritten := []

def setClient
    (self : UdpSession Endpoint)
    (connection : Nat)
    (client : SessionEnd (UdpReceiver Endpoint)) : UdpSession Endpoint :=
  { self with client := Function.update self.client connection client }

/--
One turn of the client's TUN loop.  After an error of `Send` it reconnects,
which makes another connection, and ends.
-/
def clientTun
    (aead : Aead 16)
    (self : UdpSession Endpoint)
    (index : Nat)
    (packet : List UInt8)
    (draw : SendDraw)
    (error : Option SendError) : UdpSession Endpoint :=
  let client := self.client index
  let connection := client.coroutine.connection
  let fail :=
    self.setClient index
      { client with coroutine := client.coroutine.setFault .outOfBounds }
  match connection.readTun packet with
  | none =>
      fail
  | some ready =>
      if self.settings.forwardsToServer ready.tun_recv_buffer then
        match ready.Send aead packet.length draw with
        | none =>
            fail
        | some (sent, datagram) =>
            let coroutine := { client.coroutine with connection := sent }
            if error.isSome then
              self.setClient index
                { client with coroutine := coroutine, tunEnded := true }
            else
              { self.setClient index { client with coroutine := coroutine }
                with toServer := self.toServer ++ [datagram.bytes] }
      else
        self.setClient index
          { client with
            coroutine := { client.coroutine with connection := ready } }

/-- An event of the client's receive coroutine. -/
def clientStep
    [DecidableEq Endpoint]
    (aead : Aead 16)
    (self : UdpSession Endpoint)
    (index : Nat)
    (arrived : Option Nat)
    (event : UdpReceiveEvent Endpoint) : Option (UdpSession Endpoint) :=
  let client := self.client index
  (client.coroutine.step aead event).map fun coroutine =>
    self.setClient index
      { client with coroutine := coroutine, arrived := arrived }

/-- `Receive` returns to the receive loop, which writes what it got. -/
def resumeClient
    [DecidableEq Endpoint]
    (aead : Aead 16)
    (self : UdpSession Endpoint)
    (index : Nat)
    (failed : Bool) : Option (UdpSession Endpoint) :=
  let client := self.client index
  match client.coroutine.pc with
  | .arrived error => do
      let coroutine ← client.coroutine.step aead .resume
      let written :=
        (coroutine.returned.drop
          client.coroutine.returned.length).filterMap Client.tunWrite
      let ends := error.isSome || (!written.isEmpty && failed)
      some
        { self.setClient index
            { client with
              coroutine := coroutine
              receiveEnded := ends
              arrived := none } with
          clientWritten :=
            self.clientWritten ++ if failed then [] else written }
  | _ => none

/-- One turn of the server's TUN loop. -/
def serverTun
    (aead : Aead 16)
    (self : UdpSession Endpoint)
    (packet : List UInt8)
    (draw : SendDraw)
    (error : Option SendError) : UdpSession Endpoint :=
  let server := self.server
  let connection := server.coroutine.connection
  let fail :=
    { self with
      server :=
        { server with
          coroutine := server.coroutine.setFault .outOfBounds } }
  match connection.readTun packet with
  | none =>
      fail
  | some ready =>
      if self.addresses.forwardsToClient ready.tun_recv_buffer then
        match ready.SendTo aead packet.length draw with
        | none =>
            fail
        | some (_, datagram) =>
            let coroutine := server.coroutine.sendTo aead packet draw
            let ends := error = some .bad_file_descriptor
            -- without a destination the socket refuses the datagram
            let leaves := error.isNone && datagram.destination.isSome
            { self with
              server :=
                { server with
                  coroutine := coroutine
                  tunEnded := ends }
              toClient :=
                self.toClient ++ if leaves then [datagram.bytes] else [] }
      else
        { self with
          server :=
            { server with
              coroutine := { server.coroutine with connection := ready } } }

/-- An event of the server's receive coroutine. -/
def serverStep
    (aead : Aead 16)
    (self : UdpSession Endpoint)
    (arrived : Option Nat)
    (event : UdpServerEvent Endpoint) : Option (UdpSession Endpoint) :=
  (self.server.coroutine.step aead event).map fun coroutine =>
    { self with
      server :=
        { self.server with coroutine := coroutine, arrived := arrived } }

/-- `ReceiveFrom` returns to the receive loop. -/
def resumeServer
    (aead : Aead 16)
    (self : UdpSession Endpoint)
    (failed : Bool) : Option (UdpSession Endpoint) :=
  let server := self.server
  match server.coroutine.pc with
  | .arrived source => do
      let coroutine ← server.coroutine.step aead .resume
      let written :=
        (server.coroutine.tunWrite aead self.addresses .resume).toList
      let ends := source.isNone || (!written.isEmpty && failed)
      some
        { self with
          server :=
            { server with
              coroutine := coroutine
              receiveEnded := ends
              arrived := none }
          serverWritten :=
            self.serverWritten ++ if failed then [] else written }
  | _ => none

def step
    [DecidableEq Endpoint]
    (aead : Aead 16)
    (self : UdpSession Endpoint)
    (event : UdpSessionEvent Endpoint) : Option (UdpSession Endpoint) :=
  match event with
  | .clientTun index packet draw error =>
      -- the device is read into a buffer of `MTU()` bytes
      if (self.client index).tunEnded ∨ self.mtu < packet.bytes.length then
        none
      else
        some (self.clientTun aead index packet.bytes draw error)
  | .clientTunError index =>
      some
        (self.setClient index { self.client index with tunEnded := true })
  | .clientReceive index =>
      if (self.client index).receiveEnded then
        none
      else
        self.clientStep aead index none (.call (self.mtu + Size))
  | .deliverToClient index datagram => do
      let bytes ← self.toClient[datagram]?
      let source ←
        (self.client index).coroutine.connection.remote_send_ep
      self.clientStep aead index (some datagram) (.arrive source bytes)
  | .strayToClient index source datagram =>
      self.clientStep aead index none (.arrive source datagram)
  | .clientError index error =>
      self.clientStep aead index none (.fail error)
  | .resumeClient index failed =>
      self.resumeClient aead index failed
  | .serverTun packet draw error =>
      if self.server.tunEnded ∨ self.mtu < packet.bytes.length then
        none
      else
        some (self.serverTun aead packet.bytes draw error)
  | .serverTunError =>
      some { self with server := { self.server with tunEnded := true } }
  | .serverReceive =>
      if self.server.receiveEnded then
        none
      else
        self.serverStep aead none (.receiveFrom (self.mtu + Size))
  | .deliverToServer source datagram => do
      let bytes ← self.toServer[datagram]?
      self.serverStep aead (some datagram) (.arrive source bytes)
  | .strayToServer source datagram =>
      self.serverStep aead none (.arrive source datagram)
  | .serverError =>
      self.serverStep aead none .receiveError
  | .resumeServer failed =>
      self.resumeServer aead failed

end UdpSession

/--
A datagram that has a whole header, whose length fields were not sealed under
the key.
-/
def Unauthenticated
    (aead : Aead 16)
    (key datagram : List UInt8) : Prop :=
  Size ≤ datagram.length ∧
    aead.decrypt key (datagram.take 12) ((datagram.drop 44).take 8)
      ((datagram.drop 12).take 16) = none

instance
    (aead : Aead 16)
    (key datagram : List UInt8) :
    Decidable (Unauthenticated aead key datagram) :=
  inferInstanceAs (Decidable (_ ∧ _))

/-- The header and the ciphertext of a frame of the packet. -/
def IConnection.HoldsSealed
    (aead : Aead 16)
    (self : IConnection)
    (packet : List UInt8) : Prop :=
  ∃ draw known,
    Size + packet.length ≤ known ∧
      self.conn_recv_buffer.slice 0 known =
        (frameBytes aead self.protocol.key packet draw).take known

/-- A frame of one of the sent packets, or nothing that is accepted. -/
def IConnection.HoldsArrival
    (aead : Aead 16)
    (self : IConnection)
    (sent : List (List UInt8)) : Option Nat → Prop
  | none =>
      (self.protocol.DecryptHeader aead self.conn_recv_buffer).2 = 0
  | some index =>
      ∃ packet, sent[index]? = some packet ∧ self.HoldsSealed aead packet

/-- One datagram for each packet: whole IP packets up to the MTU. -/
def SealedAs
    (aead : Aead 16)
    (key : List UInt8)
    (mtu : Nat)
    (datagram packet : List UInt8) : Prop :=
  Complete packet ∧ packet.length ≤ mtu ∧
    ∃ draw, datagram = frameBytes aead key packet draw

section

variable
    {aead : Aead 16}
    {key : List UInt8}
    {mtu : Nat}
    {datagrams sent : List (List UInt8)}

/-- Each datagram is the frame of the packet at its position. -/
theorem sealedAs_of_getElem?
    (carries : List.Forall₂ (SealedAs aead key mtu) datagrams sent)
    {index : Nat}
    {datagram : List UInt8}
    (there : datagrams[index]? = some datagram) :
    ∃ packet,
      sent[index]? = some packet ∧
        SealedAs aead key mtu datagram packet := by
  obtain ⟨inside, rfl⟩ := List.getElem?_eq_some_iff.mp there
  have insideSent : index < sent.length := carries.length_eq ▸ inside
  exact ⟨sent[index], List.getElem?_eq_getElem insideSent,
    carries.get inside insideSent⟩

/-- Each sent packet is a whole IP packet up to the MTU. -/
theorem sent_of_getElem?
    (carries : List.Forall₂ (SealedAs aead key mtu) datagrams sent)
    {index : Nat}
    {packet : List UInt8}
    (there : sent[index]? = some packet) :
    Complete packet ∧ packet.length ≤ mtu := by
  obtain ⟨inside, rfl⟩ := List.getElem?_eq_some_iff.mp there
  have insideDatagrams : index < datagrams.length :=
    carries.length_eq ▸ inside
  obtain ⟨complete, fits, _⟩ := carries.get insideDatagrams inside
  exact ⟨complete, fits⟩

namespace IConnection

variable {self : IConnection}

/-- More packets may be sent meanwhile. -/
theorem HoldsArrival.append
    {arrived : Option Nat}
    (holds : self.HoldsArrival aead sent arrived)
    (more : List (List UInt8)) :
    self.HoldsArrival aead (sent ++ more) arrived := by
  cases arrived with
  | none => exact holds
  | some index =>
      obtain ⟨packet, there, holdsSealed⟩ := holds
      obtain ⟨inside, _⟩ := List.getElem?_eq_some_iff.mp there
      refine ⟨packet, ?_, holdsSealed⟩
      rw [List.getElem?_append_left inside]
      exact there

/-- What a datagram leaves behind when it is cut to the size of the read. -/
theorem holdsArrival_frame
    {index : Nat}
    {datagram packet : List UInt8}
    {self : IConnection}
    (maximum : mtu ≤ MAX_BUFFSIZE)
    (sameKey : self.protocol.key = key)
    (there : sent[index]? = some packet)
    (sealedAs : SealedAs aead key mtu datagram packet) :
    HoldsArrival aead
      { self with
        conn_recv_buffer :=
          self.conn_recv_buffer.overwrite 0 (datagram.take (mtu + Size)) }
      sent (some index) := by
  obtain ⟨_, fits, draw, rfl⟩ := sealedAs
  have length :
      ((frameBytes aead key packet draw).take (mtu + Size)).length =
        min (mtu + Size) (Size + bodyLength packet draw) := by
    simp
  have body : packet.length ≤ bodyLength packet draw :=
    Nat.le_add_right _ _
  refine ⟨packet, there, draw,
    ((frameBytes aead key packet draw).take (mtu + Size)).length, ?_, ?_⟩
  · rw [length]
    omega
  · have inside :
        0 + ((frameBytes aead key packet draw).take
          (mtu + Size)).length ≤ 2000 := by
      rw [length]
      simp only [Size, MAX_BUFFSIZE] at *
      omega
    rw [Buffer.slice_overwrite_same _ _ _ inside, sameKey]
    simp

theorem holdsArrival_stray
    {datagram : List UInt8}
    {self : IConnection}
    (sent : List (List UInt8))
    (maximum : mtu ≤ MAX_BUFFSIZE)
    (stray : Unauthenticated aead self.protocol.key datagram) :
    HoldsArrival aead
      { self with
        conn_recv_buffer :=
          self.conn_recv_buffer.overwrite 0 (datagram.take (mtu + Size)) }
      sent none := by
  obtain ⟨whole, rejected⟩ := stray
  have length :
      (datagram.take (mtu + Size)).length =
        min (mtu + Size) datagram.length := by
    simp
  have part
      (offset size : Nat)
      (inside : offset + size ≤ Size) :
      (self.conn_recv_buffer.overwrite 0
          (datagram.take (mtu + Size))).slice offset size =
        (datagram.drop offset).take size := by
    rw [Buffer.slice_overwrite_inside _ (by
        rw [length]
        simp only [Size, MAX_BUFFSIZE] at *
        omega) (Nat.zero_le _) (by
        rw [length]
        omega), List.drop_take, List.take_take, Nat.sub_zero,
      Nat.min_eq_left (by omega)]
  have rejectedHere :
      aead.decrypt self.protocol.key
          ((self.conn_recv_buffer.overwrite 0
            (datagram.take (mtu + Size))).slice 0 12)
          ((self.conn_recv_buffer.overwrite 0
            (datagram.take (mtu + Size))).slice 44 8)
          ((self.conn_recv_buffer.overwrite 0
            (datagram.take (mtu + Size))).slice 12 16) =
        none := by
    rw [part 0 12 (by decide), part 44 8 (by decide),
      part 12 16 (by decide)]
    exact rejected
  simp only [HoldsArrival, Protocol.DecryptHeader,
    AES256GCM.decryptData, NONCE, lengthFields, LEN_TAG]
  rw [show aead.decrypt self.protocol.aes256gcm_crypto.key _ _ _ = none
    from rejectedHere]

/-- Decoding yields the packet, or nothing. -/
theorem decryptFrame_arrival
    (correct : aead.Correct)
    (maximum : mtu ≤ MAX_BUFFSIZE)
    (carries : List.Forall₂ (SealedAs aead key mtu) datagrams sent)
    {arrived : Option Nat}
    (holds : self.HoldsArrival aead sent arrived) :
    ∃ result value,
      self.decryptFrame aead = some (result, value) ∧
        result.protocol.key = self.protocol.key ∧
        match arrived.bind fun index => sent[index]? with
        | none => value = 0
        | some packet =>
            value = packet.length ∧
              result.conn_recv_buffer.slice Size packet.length =
                packet := by
  cases arrived with
  | none =>
      refine ⟨{ self with
        conn_recv_buffer :=
          (self.protocol.DecryptHeader aead self.conn_recv_buffer).1 },
        0, ?_, rfl, rfl⟩
      unfold decryptFrame
      exact if_pos holds
  | some index =>
      obtain ⟨packet, there, draw, known, covered, held⟩ := holds
      obtain ⟨complete, fits⟩ := sent_of_getElem? carries there
      obtain ⟨result, decoded, sameCrypto, packetThere⟩ :=
        self.decryptFrame_frame correct (Nat.le_trans fits maximum)
          (Nat.lt_of_lt_of_le (by decide) complete.minimum) covered held
      refine ⟨result, packet.length, decoded,
        congrArg AES256GCM.key sameCrypto, ?_⟩
      rw [Option.bind_some, there]
      exact ⟨rfl, packetThere⟩

end IConnection

end

end Dsvpn
