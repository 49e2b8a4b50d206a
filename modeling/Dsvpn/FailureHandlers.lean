import Dsvpn.Orderly

namespace Dsvpn

open ProtocolHeader

/-!
# What the handlers of a failure do

A coroutine that is told of a failed read or write acts on the socket that is
current by then.  When that is the one it read from or wrote to, it does
nothing to any other socket.
-/

/-- The socket an action closes, cancels, drops or deselects. -/
def Action.touched : Action → Option SocketId
  | .closed socket => some socket
  | .cancelled socket => some socket
  | .dropped socket => some socket
  | .deselected socket => some socket
  | _ => none

namespace TcpServer

/--
Before `Close`: a connection replaces a selected one only if its payload
authenticated too; and `SendTo` and `ReceiveFrom` handle a failed write or
header read only while the current socket is the one they used.
-/
def handlersOnOwnSocket
    (aead : Aead 16)
    (self : TcpServer)
    (event : TcpServerEvent) : Bool :=
  match event with
  | .resumeTry socket =>
      match self.tryReceive socket with
      | .readPayload op =>
          match self.connection.protocol.DecryptPayload aead
              self.connection.conn_recv_buffer with
          | some (_, _, accepted) =>
              accepted || !self.connection.selected ||
                op.outcome != some none || op.got == 0
          | none => true
      | _ => true
  | .resumeSendTo =>
      match self.sendLoop with
      | .writing socket _ _ (some (some _)) =>
          self.connection.conn_socket.all fun current =>
            current == socket
      | _ => true
  | .resume =>
      match self.receiveLoop with
      | .readHeader socket ⟨_, _, _, some (some _)⟩ =>
          self.connection.conn_socket.all fun current =>
            current == socket
      | _ => true
  | .close => false
  | _ => true

/-- The socket of the failed read or write that the event handles. -/
def failedOn (self : TcpServer) : TcpServerEvent → Option SocketId
  | .resumeTry socket =>
      match self.tryReceive socket with
      | .readHeader ⟨_, _, _, some (some _)⟩ => some socket
      | .readPayload ⟨_, _, _, some (some _)⟩ => some socket
      | _ => none
  | .resume =>
      match self.receiveLoop with
      | .readHeader socket ⟨_, _, _, some (some _)⟩ => some socket
      | .readPayload socket ⟨_, _, _, some (some _)⟩ => some socket
      | _ => none
  | .resumeSendTo =>
      match self.sendLoop with
      | .writing socket _ _ (some (some _)) => some socket
      | _ => none
  | _ => none

/-- Since the log was `before`, nothing was done to another socket. -/
def TouchesOnly
    (before : List Action)
    (own : SocketId)
    (server : TcpServer) : Prop :=
  ∃ added,
    server.log = before ++ added ∧
      ∀ action ∈ added, ∀ socket,
        action.touched = some socket → socket = own

/-- A failed or aborted operation is handled on its own socket. -/
def FailureOnOwnSocket
    (aead : Aead 16)
    (self : TcpServer)
    (event : TcpServerEvent) : Prop :=
  ∀ socket next,
    self.failedOn event = some socket →
    step aead self event = some next →
    next.TouchesOnly self.log socket

section

variable
    {aead : Aead 16}
    {self next : TcpServer}
    {before : List Action}
    {own : SocketId}

namespace TouchesOnly

theorem refl : self.TouchesOnly self.log own :=
  ⟨[], (List.append_nil _).symm, by simp⟩

/-- Only what is recorded matters. -/
theorem goOn
    (only : self.TouchesOnly before own)
    (sameLog : next.log = self.log) :
    next.TouchesOnly before own := by
  obtain ⟨added, log, touched⟩ := only
  exact ⟨added, sameLog.trans log, touched⟩

theorem record
    (only : self.TouchesOnly before own)
    (action : Action)
    (isOwn :
      ∀ socket, action.touched = some socket → socket = own) :
    (self.record action).TouchesOnly before own := by
  obtain ⟨added, log, touched⟩ := only
  refine ⟨added ++ [action], ?_, ?_⟩
  · rw [TcpServer.record, log, List.append_assoc]
  · intro other member
    rcases List.mem_append.mp member with earlier | now
    · exact touched other earlier
    · obtain rfl := List.mem_singleton.mp now
      exact isOwn

theorem receiveFrom
    (only : self.TouchesOnly before own) :
    self.receiveFrom.TouchesOnly before own := by
  apply receiveFrom_rule
  case null =>
    intro _ _
    exact only.goOn rfl
  case reads =>
    intro _ _ _
    exact only.goOn rfl
  case sleeps =>
    intro _
    exact only.goOn rfl

theorem returnFrom
    (only : self.TouchesOnly before own)
    (bytes_read : Int)
    (error : Option ErrorCode) :
    (self.returnFrom bytes_read error).TouchesOnly before own := by
  have returned :=
    only.record
      (.returned ⟨bytes_read, error,
        self.connection.conn_recv_buffer.slice Size bytes_read.toNat⟩)
      (fun _ touched => by cases touched)
  refine returnFrom_rule returned (fun held => held.goOn rfl)
    (fun held => held.receiveFrom) ?_
  intro state packet held
  have written :=
    held.record (.tunWritten packet)
      (fun _ touched => by cases touched)
  exact written.goOn rfl

/-- The current socket is the one that is closed. -/
theorem loseConnection
    (only : self.TouchesOnly before own)
    (isOwn :
      ∀ current, self.connection.conn_socket = some current →
        current = own) :
    self.loseConnection.TouchesOnly before own := by
  have closed
      (socket : SocketId)
      (current : self.connection.conn_socket = some socket) :
      (self.closeSocket socket).TouchesOnly before own := by
    refine TouchesOnly.record (only.goOn rfl) _ ?_
    intro touchedSocket touched
    rw [← Option.some.inj touched]
    exact isOwn socket current
  apply loseConnection_rule
  case null =>
    intro _
    exact only.goOn rfl
  case alone =>
    intro socket current _
    exact receiveFrom ((closed socket current).goOn rfl)
  case replaced =>
    intro socket replacement current _
    exact receiveFrom ((closed socket current).goOn rfl)

/-- `ReceiveFrom` is told that its header read has failed. -/
theorem resumeHeader
    (only : self.TouchesOnly before own)
    (isOwn :
      ∀ current, self.connection.conn_socket = some current →
        current = own)
    (bytes_read : Nat)
    (error : ErrorCode) :
    (self.resumeHeader aead own bytes_read (some error)).TouchesOnly
      before own := by
  have failed :=
    only.record (.readFailed own)
      (fun _ touched => by cases touched)
  exact resumeHeader_failed (fun _ => failed.returnFrom _ _)
    (fun _ => failed.loseConnection isOwn) bytes_read

/-- A failed payload read is only recorded. -/
theorem resumePayload
    (only : self.TouchesOnly before own)
    (bytes_read : Nat)
    (error : Option ErrorCode) :
    (self.resumePayload aead own bytes_read error).TouchesOnly
      before own :=
  resumePayload_rule
    (only.record _ (fun _ touched => by cases touched))
    only (fun held => held.goOn rfl)
    (fun _ _ held => held.goOn rfl) (fun held => held.receiveFrom)
    (fun _ held => held.returnFrom _ _) bytes_read

theorem resumeTryHeader
    (only : self.TouchesOnly before own)
    (socket : SocketId)
    (bytes_read : Nat) :
    (self.resumeTryHeader aead socket bytes_read).TouchesOnly
      before own := by
  apply resumeTryHeader_rule
  case nothing => exact only.goOn rfl
  case empty =>
    intro _
    exact only.goOn rfl
  case announced =>
    intro _ _
    exact only.goOn rfl

/-- The error of a payload read is thrown. -/
theorem resumeTryPayload
    (only : self.TouchesOnly before own)
    (socket : SocketId)
    (bytes_read : Nat)
    (error : ErrorCode) :
    (self.resumeTryPayload aead socket bytes_read
      (some error)).TouchesOnly before own := by
  apply resumeTryPayload_rule
  case thrown => exact only.goOn rfl
  case nothing =>
    intro complete
    cases complete
  case outside =>
    intro _
    exact only.goOn rfl
  case chosen =>
    intro _ _ _ complete
    cases complete
  case unreached =>
    intro _ _ _ complete
    cases complete

/-- `SendTo` is told that its write has failed. -/
theorem resumeSendTo
    (only : self.TouchesOnly before own)
    (isOwn :
      ∀ current, self.connection.conn_socket = some current →
        current = own)
    (error : Option ErrorCode) :
    (self.resumeSendTo own error).TouchesOnly before own := by
  have returned :
      TouchesOnly before own { self with sendLoop := .readTun } :=
    only.goOn rfl
  have failed :=
    returned.record (.writeFailed own)
      (fun _ touched => by cases touched)
  apply resumeSendTo_rule
  case returned => exact returned
  case stopped =>
    intro _ _
    exact failed
  case null =>
    intro _ _ _
    exact failed.goOn rfl
  case deselected =>
    intro current _ _ isCurrent
    obtain rfl := isOwn current isCurrent
    have cancelled :=
      record (failed.goOn rfl :
        (TcpServer.abort
          (TcpServer.record { self with sendLoop := .readTun }
            (.writeFailed current))
          current).TouchesOnly before current)
        (.cancelled current)
        (fun _ touched => (Option.some.inj touched).symm)
    have deselected :=
      cancelled.record (.deselected current)
        (fun _ touched => (Option.some.inj touched).symm)
    exact deselected.goOn rfl

end TouchesOnly

/-- Where the handlers find their own socket, they leave the others alone. -/
theorem failureOnOwnSocket
    {event : TcpServerEvent}
    (own : self.handlersOnOwnSocket aead event = true) :
    self.FailureOnOwnSocket aead event := by
  intro socket next failed performed
  obtain ⟨_, transition⟩ := step_transition performed
  cases transition with
  | @resumeTryHeader trying op error reading completed =>
      exact TouchesOnly.refl.resumeTryHeader _ _
  | @resumeTryPayload trying op error reading completed =>
      obtain ⟨offset, want, got, outcome⟩ := op
      obtain rfl : outcome = some error := completed
      cases error with
      | none => simp [failedOn, reading] at failed
      | some error => exact TouchesOnly.refl.resumeTryPayload _ _ error
  | @resumeHeader current op error reading completed =>
      obtain ⟨offset, want, got, outcome⟩ := op
      obtain rfl : outcome = some error := completed
      cases error with
      | none => simp [failedOn, reading] at failed
      | some error =>
          obtain rfl : current = socket := by
            simpa [failedOn, reading] using failed
          refine TouchesOnly.refl.resumeHeader ?_ _ error
          intro other isCurrent
          simpa [handlersOnOwnSocket, reading, isCurrent] using own
  | @resumePayload current op error reading completed =>
      obtain ⟨offset, want, got, outcome⟩ := op
      obtain rfl : outcome = some error := completed
      cases error with
      | none => simp [failedOn, reading] at failed
      | some error =>
          obtain rfl : current = socket := by
            simpa [failedOn, reading] using failed
          exact TouchesOnly.refl.resumePayload _ _
  | @resumeSendTo current frame sent error writing =>
      cases error with
      | none => simp [failedOn, writing] at failed
      | some error =>
          obtain rfl : current = socket := by
            simpa [failedOn, writing] using failed
          refine TouchesOnly.refl.resumeSendTo ?_ _
          intro other isCurrent
          simpa [handlersOnOwnSocket, writing, isCurrent] using own
  | wake waiting => simp [failedOn, waiting] at failed
  | incoming _ => cases failed
  | resumeAccept _ => cases failed
  | disconnect _ => cases failed
  | arriveTryHeader _ _ _ => cases failed
  | arriveTryPayload _ _ _ => cases failed
  | arriveTryOutside _ _ _ => cases failed
  | failTryHeader _ _ => cases failed
  | failTryPayload _ _ => cases failed
  | arriveHeader _ _ _ => cases failed
  | arrivePayload _ _ _ => cases failed
  | arriveOutside _ _ _ => cases failed
  | failHeader _ _ => cases failed
  | failPayload _ _ => cases failed
  | tunWritten _ _ => cases failed
  | sendTo _ _ _ => cases failed
  | writeSome _ _ _ => cases failed
  | writeError _ _ => cases failed
  | close => cases failed

end

end TcpServer

end Dsvpn
