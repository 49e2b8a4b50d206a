import Dsvpn.ReceiveReturns
import Dsvpn.Tunnel

namespace Dsvpn

open ProtocolHeader

/-!
# What the server writes to its TUN device

The receive loop of `Server::Run` writes at most one packet for each return of
`ReceiveFrom`.  The lemmas say for one step of the server's coroutines, over
either transport, which packet that is: the bytes that were decrypted, if the
checks on the IP header let them through.
-/

/-- The packet of a write to the TUN device. -/
def Action.tunWritten? : Action → Option (List UInt8)
  | .tunWritten packet => some packet
  | _ => none

namespace TcpServer

/-- The packets the receive loop has written to the TUN device. -/
def tunWritten (self : TcpServer) : List (List UInt8) :=
  self.log.filterMap Action.tunWritten?

/-- The receive loop writes nothing on the way to `next`. -/
def WritesNothing (server next : TcpServer) : Prop :=
  next.tunWritten = server.tunWritten

section

variable
    {aead : Aead 16}
    {self next : TcpServer}

theorem tunWritten_record (action : Action) :
    (self.record action).tunWritten =
      self.tunWritten ++ action.tunWritten?.toList := by
  cases action <;> simp [tunWritten, record, Action.tunWritten?]

namespace WritesNothing

theorem trans
    {middle : TcpServer}
    (first : WritesNothing self middle)
    (second : WritesNothing middle next) :
    WritesNothing self next :=
  Eq.trans second first

theorem drop_eq_nil
    (nothing : WritesNothing self next) :
    next.tunWritten.drop self.tunWritten.length = [] := by
  rw [show next.tunWritten = self.tunWritten from nothing,
    List.drop_length]

theorem record
    {action : Action}
    (other : action.tunWritten? = none) :
    WritesNothing self (self.record action) := by
  rw [WritesNothing, tunWritten_record, other]
  exact List.append_nil _

/-- Nothing new stands behind what was written before. -/
theorem trans_append
    (nothing : WritesNothing self next) :
    next.tunWritten = self.tunWritten ++ [] :=
  Eq.trans nothing (List.append_nil _).symm

theorem closeSocket (socket : SocketId) :
    WritesNothing self (self.closeSocket socket) := by
  have aborted : WritesNothing self ((self.abort socket).shut socket) :=
    rfl
  exact aborted.trans (record rfl)

theorem cancel (socket : SocketId) :
    WritesNothing self (self.cancel socket) := by
  have aborted : WritesNothing self (self.abort socket) := rfl
  exact aborted.trans (record rfl)

theorem drop (socket : Option SocketId) :
    WritesNothing self (self.drop socket) := by
  cases socket with
  | none => rfl
  | some socket =>
      have aborted :
          WritesNothing self ((self.abort socket).shut socket) :=
        rfl
      exact aborted.trans (record rfl)

theorem receiveFrom : WritesNothing self self.receiveFrom := by
  apply receiveFrom_rule
  · exact fun _ _ => rfl
  · exact fun _ _ _ => rfl
  · exact fun _ => rfl

theorem loseConnection : WritesNothing self self.loseConnection := by
  apply loseConnection_rule
  · exact fun _ => rfl
  · exact fun socket _ _ => (closeSocket socket).trans receiveFrom
  · exact fun socket _ _ _ => (closeSocket socket).trans receiveFrom

theorem choose
    (socket : SocketId)
    (authenticated : Bool) :
    WritesNothing self (self.choose socket authenticated) := by
  have chosen :
      WritesNothing self (self.record (.chosen socket authenticated)) :=
    record rfl
  have queued :
      WritesNothing self (self.queueReplacement socket authenticated) :=
    chosen.trans (drop self.connection.replace_socket)
  apply choose_rule
  · exact fun _ => chosen.trans (drop self.connection.conn_socket)
  · exact fun _ _ => queued
  · exact fun current _ _ _ => queued.trans (cancel current)
  · exact fun _ _ _ _ => queued

theorem resumeTryHeader
    (socket : SocketId)
    (bytes_read : Nat) :
    WritesNothing self (self.resumeTryHeader aead socket bytes_read) := by
  apply resumeTryHeader_rule
  · rfl
  · exact fun _ => rfl
  · exact fun _ _ => rfl

theorem resumeTryPayload
    (socket : SocketId)
    (bytes_read : Nat)
    (error : Option ErrorCode) :
    WritesNothing self
      (self.resumeTryPayload aead socket bytes_read error) := by
  apply resumeTryPayload_rule
  · rfl
  · exact fun _ _ => rfl
  · exact fun _ => rfl
  · exact fun _ _ accepted _ _ _ _ _ => choose socket accepted
  · exact fun _ _ _ _ _ _ => rfl

theorem sendTo
    (packet : List UInt8)
    (draw : SendDraw) :
    WritesNothing self (self.sendTo aead packet draw) := by
  obtain ⟨_, _, _, changed, _⟩ := sendTo_changes aead self packet draw
  rw [changed]
  rfl

theorem resumeSendTo
    (writing : SocketId)
    (error : Option ErrorCode) :
    WritesNothing self (self.resumeSendTo writing error) := by
  have failed :
      WritesNothing self
        (TcpServer.record { self with sendLoop := .readTun }
          (.writeFailed writing)) :=
    record rfl
  apply resumeSendTo_rule
  · rfl
  · exact fun _ _ => failed
  · exact fun _ _ _ => failed
  · exact fun socket _ _ _ =>
      (failed.trans (cancel socket)).trans (record rfl)

theorem close : WritesNothing self self.close := by
  apply close_rule
  · rfl
  · exact fun _ _ => rfl
  · exact fun socket _ _ => closeSocket socket

end WritesNothing

/-- What one step makes `ReceiveFrom` return and the receive loop write. -/
inductive WriteStep
    (aead : Aead 16)
    (server : TcpServer)
    (event : TcpServerEvent)
    (next : TcpServer) : Prop where
  | silent :
      next.packets = server.packets →
      WritesNothing server next →
      WriteStep aead server event next
  | stops
      (error : Option ErrorCode)
      (packet : List UInt8) :
      next.packets = server.packets ++ [⟨-1, error, packet⟩] →
      WritesNothing server next →
      WriteStep aead server event next
  | opens
      (error : Option ErrorCode)
      (packet : List UInt8)
      (header : PacketBuffer) :
      event = .resume →
      AuthenticPayload aead server.key
        ⟨packet.length, error, packet⟩ →
      header.slice Size packet.length = packet →
      next.packets =
        server.packets ++ [⟨packet.length, error, packet⟩] →
      next.tunWritten =
        server.tunWritten ++
          (if error.isSome then
            none
          else
            server.addresses.tunWrite packet.length header).toList →
      WriteStep aead server event next

/-- A return writes what the checks on the IP header let through. -/
theorem tunWritten_returnFrom
    (bytes_read : Int)
    (error : Option ErrorCode) :
    (self.returnFrom bytes_read error).tunWritten =
      self.tunWritten ++
        (if error.isSome then
          none
        else
          self.addresses.tunWrite bytes_read
            self.connection.conn_recv_buffer).toList := by
  have returned :
      WritesNothing self
        (self.record (.returned ⟨bytes_read, error,
          self.connection.conn_recv_buffer.slice Size
            bytes_read.toNat⟩)) :=
    WritesNothing.record rfl
  unfold returnFrom
  simp only
  split
  · exact returned.trans_append
  · split
    · rename_i minus
      rw [minus] at returned ⊢
      exact returned.trans_append
    · split
      · rename_i refused
        rw [refused]
        exact (returned.trans WritesNothing.receiveFrom).trans_append
      · rename_i packet passes
        rw [passes]
        exact (tunWritten_record _).trans
          (congrArg (· ++ [packet]) returned)

theorem writeStep_resumeHeader
    (socket : SocketId)
    (bytes_read : Nat)
    (error : Option ErrorCode) :
    WriteStep aead self .resume
      (self.resumeHeader aead socket bytes_read error) := by
  cases error with
  | none =>
      refine .silent
        (Silent.kept.resumeHeader socket bytes_read Silent.refl
          fun _ => { Silent.refl with }).packets ?_
      apply resumeHeader_complete
      · exact fun _ => WritesNothing.receiveFrom
      · intro header _
        have opened : WritesNothing self (self.setBuffer header) := rfl
        exact opened.trans WritesNothing.receiveFrom
      · exact fun _ _ _ => rfl
      · exact fun _ _ _ _ _ => rfl
  | some error =>
      have failed : Silent self (self.record (.readFailed socket)) :=
        Silent.kept.record _ rfl Silent.refl
      have quiet : WritesNothing self (self.record (.readFailed socket)) :=
        WritesNothing.record rfl
      apply resumeHeader_failed
      · intro _
        refine .stops (some error) _
          ((packets_returnFrom _ _).trans
            (congrArg (· ++ _) failed.packets))
          (quiet.trans ?_)
        exact (tunWritten_returnFrom _ _).trans (List.append_nil _)
      · intro _
        exact .silent (Silent.kept.loseConnection failed).packets
          (quiet.trans WritesNothing.loseConnection)

theorem writeStep_resumePayload
    (socket : SocketId)
    (bytes_read : Nat)
    (error : Option ErrorCode) :
    WriteStep aead self .resume
      (self.resumePayload aead socket bytes_read error) := by
  have silent := silent_readFailed self socket error
  have same :
      ∃ log,
        (if error.isSome then
          self.record (.readFailed socket)
        else
          self) = { self with log := log } ∧
          WritesNothing self { self with log := log } := by
    split
    · exact ⟨_, rfl, WritesNothing.record rfl⟩
    · exact ⟨_, rfl, rfl⟩
  obtain ⟨log, same, quiet⟩ := same
  rw [same] at silent
  unfold resumePayload
  simp only [same]
  split
  · exact .silent (Silent.kept.receiveFrom silent).packets
      (quiet.trans WritesNothing.receiveFrom)
  · rcases self.connection.protocol.DecryptPayload_cases aead
        self.connection.conn_recv_buffer with
        ⟨packet, fits, length, authentic, opens⟩ | rejects
    · simp only [opens, if_true]
      have sameLength :
          PAYLOAD_LENGTH
              (self.connection.conn_recv_buffer.overwrite
                Size packet) =
            packet.length := by
        rw [PAYLOAD_LENGTH_overwrite _ _ (Nat.le_refl _)]
        exact length.symm
      have held :
          (self.connection.conn_recv_buffer.overwrite
              Size packet).slice Size packet.length =
            packet :=
        Buffer.slice_overwrite_same _ _ _
          (by simp only [Size, MAX_BUFFSIZE] at *; omega)
      refine .opens error packet _ rfl ⟨rfl, _, _, _, authentic⟩ held
        ?_ ?_
      · rw [packets_returnFrom, sameLength]
        simp only [Int.toNat_natCast, held]
        exact congrArg (· ++ _) silent.packets
      · rw [tunWritten_returnFrom, sameLength]
        exact congrArg (· ++ _) quiet
    · simp only [rejects, Bool.false_eq_true, if_false]
      refine .silent
        (Silent.kept.receiveFrom { silent with }).packets
        (quiet.trans ?_)
      exact WritesNothing.receiveFrom

/-- Only a return of `ReceiveFrom` writes, and only what it returned. -/
theorem step_writes
    {event : TcpServerEvent}
    (performed : step aead self event = some next) :
    WriteStep aead self event next := by
  obtain ⟨_, transition⟩ := step_transition performed
  cases transition with
  | resumeTryHeader reading _ =>
      exact .silent (Silent.kept.resumeTryHeader
        (by simp [reading]) _ Silent.refl
        (fun _ => { Silent.refl with })
        fun _ _ => { Silent.refl with }).packets
        (WritesNothing.resumeTryHeader _ _)
  | resumeTryPayload reading _ =>
      exact .silent (Silent.kept.resumeTryPayload
        (by simp [reading]) _ _ (fun silent => { silent with })
        Silent.refl fun _ _ _ => { Silent.refl with }).packets
        (WritesNothing.resumeTryPayload _ _ _)
  | wake _ => exact .silent packets_receiveFrom WritesNothing.receiveFrom
  | resumeHeader _ _ => exact writeStep_resumeHeader _ _ _
  | resumePayload _ _ => exact writeStep_resumePayload _ _ _
  | tunWritten failed _ =>
      cases failed with
      | false =>
          exact .silent packets_receiveFrom WritesNothing.receiveFrom
      | true => exact .silent rfl rfl
  | sendTo packet draw _ =>
      exact .silent (silent_sendTo _ _).packets
        (WritesNothing.sendTo _ _)
  | resumeSendTo _ =>
      exact .silent (Silent.kept.resumeSendTo _ _
        { Silent.refl with }).packets (WritesNothing.resumeSendTo _ _)
  | close =>
      exact .silent (Silent.kept.close Silent.refl).packets
        WritesNothing.close
  | _ => exact .silent rfl rfl

/-- The addresses that the loops compare with are set once. -/
theorem addresses_kept (addresses : Server) :
    KeptByReturning
      (fun next : TcpServer => next.addresses = addresses) where
  setPointers := fun _ _ _ same => same
  finish := fun _ _ same => same
  wake := fun same => same
  abort := fun _ same => same
  shut := fun _ same => same
  record := fun _ _ same => same
  nullDereference := fun same => same
  setReceiveLoop := fun _ _ same => same
  recordReturned := fun _ same => same
  endReceiveLoop := fun same => same

theorem step_addresses
    {event : TcpServerEvent}
    (performed : step aead self event = some next) :
    next.addresses = self.addresses := by
  have kept := addresses_kept self.addresses
  obtain ⟨_, transition⟩ := step_transition performed
  cases transition with
  | resumeTryHeader reading _ =>
      exact kept.resumeTryHeader (by simp [reading]) _ rfl
        (fun _ => rfl) fun _ _ => rfl
  | resumeTryPayload reading _ =>
      exact kept.resumeTryPayload (by simp [reading]) _ _
        (fun same => same) rfl fun _ _ _ => rfl
  | wake => exact kept.receiveFrom rfl
  | resumeHeader => exact kept.resumeHeader _ _ _ rfl fun _ _ => rfl
  | resumePayload =>
      exact kept.resumePayload _ _ _ rfl fun _ _ same => same
  | tunWritten failed =>
      cases failed with
      | false => exact kept.receiveFrom rfl
      | true => rfl
  | sendTo packet draw =>
      obtain ⟨_, _, _, changed, _⟩ :=
        sendTo_changes aead self packet draw
      rw [changed]
  | resumeSendTo => exact kept.resumeSendTo _ _ rfl
  | close => exact kept.close rfl
  | _ => rfl

end

end TcpServer

variable {Endpoint : Type}

/--
The packet that the receive loop writes when `ReceiveFrom` resumes.  After a
failed `async_receive_from` the loop ends.
-/
def UdpServer.tunWrite
    (aead : Aead 16)
    (addresses : Server)
    (self : UdpServer Endpoint)
    (event : UdpServerEvent Endpoint) : Option (List UInt8) :=
  match self.pc, event with
  | .arrived (some _), .resume =>
      match self.connection.resumeReceiveFrom aead with
      | none =>
          none
      | some (connection, bytes_read) =>
          addresses.tunWrite bytes_read connection.conn_recv_buffer
  | _, _ =>
      none

/-- The packets that the receive loop writes in one step. -/
def ServerTransport.tunWrites
    (aead : Aead 16)
    (addresses : Server)
    (self : ServerTransport Endpoint)
    (event : ServerEvent Endpoint) : List (List UInt8) :=
  match self, event with
  | .udp server, .udp event =>
      (server.tunWrite aead addresses event).toList
  | .tcp server, .tcp event =>
      match server.step aead event with
      | none => []
      | some next => next.tunWritten.drop server.tunWritten.length
  | _, _ =>
      []

/-- The packets that the server writes in one step of the whole system. -/
def Tunnel.serverWrites
    (cipher : Aead 16)
    (self : Tunnel Endpoint)
    (event : TunnelEvent Endpoint) : List (List UInt8) :=
  match event with
  | .serverReceive event =>
      self.server.tunWrites (cipher.restrict self.calls) self.addresses
        event
  | _ =>
      []

end Dsvpn
