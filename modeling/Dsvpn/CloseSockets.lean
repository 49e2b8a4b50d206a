import Dsvpn.ReceiveReturns
import Dsvpn.TakeoverSwitch
import Dsvpn.TcpClient

namespace Dsvpn

open ProtocolHeader

/-!
# What `Close` closes

`Close` acts under `selected`, which the client never sets.  It leaves the
timer and the replacement socket alone, and it relies on the error check that
`ReceiveFrom` has after its header read only.
-/

/-- The socket of a write of `SendTo` that is in progress. -/
def SendLoopPc.pendingWrite : SendLoopPc → Option SocketId
  | .writing socket _ _ none => some socket
  | _ => none

/-- `ReceiveFrom` will return once its socket is closed, or is not called. -/
def ReceiveLoopPc.leavesOnClose : ReceiveLoopPc → Bool
  | .waitSelected _ => false
  | .readHeader _ op => op.outcome != some none
  | .readPayload _ _ => false
  | .writeTun => true
  | .ended => true

theorem SendLoopPc.pendingWrite_abort
    {pc : SendLoopPc}
    {target socket : SocketId}
    (pending : (pc.abort target).pendingWrite = some socket) :
    pc.pendingWrite = some socket ∧ socket ≠ target := by
  unfold SendLoopPc.abort at pending
  split at pending
  · split at pending
    · cases pending
    · rename_i different
      obtain rfl := Option.some.inj pending
      exact ⟨rfl, different⟩
  · rename_i completed
    unfold SendLoopPc.pendingWrite at pending
    split at pending
    · exact (completed _ _ _ rfl).elim
    · cases pending

theorem SendLoopPc.pendingWrite_eq_some
    {pc : SendLoopPc}
    {socket : SocketId} :
    pc.pendingWrite = some socket ↔
      ∃ frame sent, pc = .writing socket frame sent none := by
  constructor
  · intro pending
    unfold pendingWrite at pending
    split at pending
    · obtain rfl := Option.some.inj pending
      exact ⟨_, _, rfl⟩
    · cases pending
  · rintro ⟨_, _, rfl⟩
    rfl

theorem ReceiveLoopPc.leavesOnClose_abort
    (pc : ReceiveLoopPc)
    (target : SocketId) :
    (pc.abort target).leavesOnClose = pc.leavesOnClose := by
  have failed (op : ReadOp) (error : ErrorCode) :
      ((op.fail error).outcome != some none) =
        (op.outcome != some none) := by
    unfold ReadOp.fail
    split
    · rename_i pending
      rw [pending]
      rfl
    · rfl
  unfold ReceiveLoopPc.abort
  split
  · split
    · exact failed _ _
    · rfl
  · split <;> rfl
  · rfl

namespace TcpServer

/-- A write of `SendTo` in progress is a write to the current socket. -/
def WritesCurrent (server : TcpServer) : Prop :=
  ∀ socket, server.sendLoop.pendingWrite = some socket →
    server.connection.conn_socket = some socket

end TcpServer

/-- A connection object with the coroutines that use it. -/
inductive TcpRole where
  | server (state : TcpServer)
  | client (state : TcpClient)

inductive TcpRoleEvent where
  | server (event : TcpServerEvent)
  | client (event : TcpClientEvent)

namespace TcpRole

/-- After `Bind` and `Accept`, or `Connect`, with the coroutines started. -/
inductive Starts : TcpRole → Prop where
  | server (conn_key : List UInt8) (addresses : Server) :
      Starts (.server (TcpServer.create conn_key addresses))
  | client (conn_key : List UInt8) (settings : Client) :
      Starts (.client (TcpClient.connect conn_key settings))

def connection : TcpRole → TCPConnection
  | .server state => state.connection
  | .client state => state.connection

def socket : TcpRole → SocketId → Socket
  | .server state => state.socket
  | .client state => state.socket

def fault : TcpRole → Option Fault
  | .server state => state.fault
  | .client state => state.fault

def step
    (aead : Aead 16) :
    TcpRole → TcpRoleEvent → Option TcpRole
  | .server state, .server event =>
      (TcpServer.step aead state event).map .server
  | .client state, .client event =>
      (TcpClient.step aead state event).map .client
  | _, _ => none

/-- The coroutine that `Close` starts has run. -/
def close : TcpRole → TcpRole
  | .server state => .server state.close
  | .client state => .client state.close

/-- A coroutine is suspended in `ReceiveFrom`, or in `Receive`. -/
def receiving : TcpRole → Bool
  | .server state =>
      match state.receiveLoop with
      | .writeTun => false
      | .ended => false
      | _ => true
  | .client state => state.receiveLoop == .receiving

/--
A wake-up is pending for that coroutine: on it `ReceiveFrom` returns `-1`, and
`Receive` returns.
-/
def ReceiveReturns (aead : Aead 16) : TcpRole → Prop
  | .server state =>
      ∃ next error packet,
        TcpServer.step aead state .resume = some next ∧
          next.fault = none ∧
          next.packets = state.packets ++ [⟨-1, error, packet⟩]
  | .client state =>
      ∃ next result,
        TcpClient.step aead state (.receive .resume) = some next ∧
          next.fault = none ∧
          next.receiver.returned = state.receiver.returned ++ [result]

/-- So it is for a coroutine suspended in `SendTo`, which the server has. -/
def SendToReturns (aead : Aead 16) : TcpRole → Prop
  | .server state =>
      state.sendLoop ≠ .readTun →
      ∃ next,
        TcpServer.step aead state .resumeSendTo = some next ∧
          next.fault = none ∧
          next.sendLoop = .readTun
  | .client _ => True

/-- What `Close` is to achieve. -/
structure Closed (aead : Aead 16) (role : TcpRole) : Prop where
  running : role.fault = none
  notAccepting : role.connection.tcp_acceptor_open = false
  noneOpen :
    ∀ socket,
      role.connection.conn_socket = some socket ∨
        role.connection.replace_socket = some socket →
      (role.socket socket).is_open = false
  neverSelected :
    ∀ events final,
      StepSystem.run (step aead) role events = some final →
      final.connection.selected = false
  stopped : role.connection.stopped = true
  receiveReturns : role.receiving = true → role.ReceiveReturns aead
  sendToReturns : role.SendToReturns aead

/--
`Close` closes a server's connection that is selected, or stopped before,
while no other connection waits to take its place, and `ReceiveFrom` is in a
header read that has not completed with a header, or is not called.
-/
def closable : TcpRole → Bool
  | .server state =>
      (state.connection.selected || state.connection.stopped) &&
        state.connection.replace_socket.isNone &&
        state.receiveLoop.leavesOnClose
  | .client _ => false

end TcpRole

namespace TcpServer

/-- What holds in every run, before and after `Close`. -/
structure Serving (server : TcpServer) : Prop where
  orderly : server.Orderly
  guard : server.PointerGuard
  placed : server.WriterPlaced
  opened : server.SocketsOpen
  reads : server.ReadsCurrent
  writes : server.WritesCurrent

section

variable
    {aead : Aead 16}
    {self next : TcpServer}

theorem abortable_pendingWrite :
    Abortable fun _ sending => sending.pendingWrite where
  wake := fun _ _ => rfl
  abort := SendLoopPc.pendingWrite_abort

theorem writesCurrent_idle
    (idle : self.sendLoop.pendingWrite = none) :
    self.WritesCurrent := fun socket pending => by
  rw [idle] at pending
  cases pending

/-- What moves no pointer and does not write. -/
theorem WritesCurrent.receivesOnly
    (writes : self.WritesCurrent)
    (only : self.ReceivesOnly next) :
    next.WritesCurrent := fun socket pending => by
  have same := congrArg Selection.conn_socket only.selection
  change next.connection.conn_socket = self.connection.conn_socket
    at same
  rw [same]
  rw [only.sendLoop] at pending
  exact writes socket pending

/-- The close of the current socket ends the write. -/
theorem WritesCurrent.loseConnection
    (writes : self.WritesCurrent) :
    self.loseConnection.WritesCurrent := by
  have ended
      (socket : SocketId)
      (current : self.connection.conn_socket = some socket) :
      (self.sendLoop.abort socket).pendingWrite = none := by
    rw [Option.eq_none_iff_forall_ne_some]
    intro other pending
    obtain ⟨before, different⟩ :=
      SendLoopPc.pendingWrite_abort pending
    have same := (writes other before).symm.trans current
    exact different (Option.some.inj same)
  apply loseConnection_rule
  case null =>
    intro _
    exact writes
  case alone =>
    intro socket current _
    refine WritesCurrent.receivesOnly ?_
      ReceivesOnly.refl.receiveFrom
    exact writesCurrent_idle (ended socket current)
  case replaced =>
    intro socket replacement current _
    refine WritesCurrent.receivesOnly ?_
      ReceivesOnly.refl.receiveFrom
    exact writesCurrent_idle (ended socket current)

theorem WritesCurrent.resumeHeader
    (writes : self.WritesCurrent)
    (reading : SocketId)
    (bytes_read : Nat)
    (error : Option ErrorCode) :
    (self.resumeHeader aead reading bytes_read
      error).WritesCurrent := by
  cases error with
  | none =>
      exact writes.receivesOnly
        (ReceivesOnly.refl.resumeHeader aead reading bytes_read)
  | some error =>
      have failed : (self.record (.readFailed reading)).WritesCurrent :=
        writes
      exact resumeHeader_failed
        (fun _ => failed.receivesOnly (ReceivesOnly.refl.returnFrom _ _))
        (fun _ => failed.loseConnection) bytes_read

/-- A write that `SendTo` starts is one to the current socket. -/
theorem WritesCurrent.sendTo
    (reading : self.sendLoop = .readTun)
    (packet : List UInt8)
    (draw : SendDraw) :
    (self.sendTo aead packet draw).WritesCurrent := by
  intro socket pending
  obtain ⟨frame, sent, writing⟩ :=
    SendLoopPc.pendingWrite_eq_some.mp pending
  rcases (sendStep_sendTo reading packet draw).writing_cases writing
    with ⟨_, _, before⟩ | current
  · rw [reading] at before
    cases before
  · exact (congrArg Selection.conn_socket
      (selection_sendTo packet draw)).trans current

/-- `SendTo` returns to the TUN loop. -/
theorem sendLoop_resumeSendTo
    (writing : SocketId)
    (error : Option ErrorCode) :
    (self.resumeSendTo writing error).sendLoop = .readTun := by
  let Idle (next : TcpServer) : Prop :=
    next.sendLoop = .readTun
  have idle : Idle (self.resumeSendTo writing error) :=
    resumeSendTo_rule rfl (fun _ _ => rfl) (fun _ _ _ => rfl)
      (fun _ _ _ _ => rfl)
  exact idle

/-- Every step: what `SendTo` writes to is the current socket. -/
theorem WritesCurrent.step
    {event : TcpServerEvent}
    (writes : self.WritesCurrent)
    (performed : TcpServer.step aead self event = some next) :
    next.WritesCurrent := by
  obtain ⟨_, transition⟩ := step_transition performed
  cases transition with
  | resumeTryHeader reading _ =>
      intro socket pending
      have before :=
        (abortable_pendingWrite.kept self).resumeTryHeader
          (by simp [reading]) _ (fun _ same => same)
          (fun _ _ same => same) (fun _ _ _ same => same) socket pending
      exact (congrArg Selection.conn_socket
        (selection_resumeTryHeader _ _)).trans (writes socket before)
  | resumeTryPayload reading _ =>
      exact abortable_pendingWrite.resumeTryPayload writes
        (by simp [reading]) _ _
  | wake _ => exact writes.receivesOnly ReceivesOnly.refl.receiveFrom
  | resumeHeader _ _ => exact writes.resumeHeader _ _ _
  | resumePayload _ _ =>
      exact writes.receivesOnly
        (ReceivesOnly.refl.resumePayload aead _ _ _)
  | tunWritten failed _ =>
      cases failed with
      | false =>
          exact writes.receivesOnly ReceivesOnly.refl.receiveFrom
      | true => exact writes
  | sendTo packet draw reading =>
      exact WritesCurrent.sendTo reading packet draw
  | writeSome writing _ _ =>
      intro other pending
      obtain ⟨_, _, same⟩ := SendLoopPc.pendingWrite_eq_some.mp pending
      obtain ⟨rfl, _⟩ := SendLoopPc.writing.inj same
      exact writes _
        (SendLoopPc.pendingWrite_eq_some.mpr ⟨_, _, writing⟩)
  | writeError _ _ => exact writesCurrent_idle rfl
  | resumeSendTo _ =>
      exact writesCurrent_idle
        (by rw [sendLoop_resumeSendTo]; rfl)
  | close => exact abortable_pendingWrite.close writes
  | _ => exact writes

theorem Serving.create
    (conn_key : List UInt8)
    (addresses : Server) :
    (create conn_key addresses).Serving where
  orderly := Orderly.create _ _
  guard := PointerGuard.create _ _
  placed := WriterPlaced.create _ _
  opened := SocketsOpen.create _ _
  reads := readsCurrent_idle rfl
  writes := writesCurrent_idle rfl

theorem Serving.step
    {event : TcpServerEvent}
    (serving : self.Serving)
    (performed : TcpServer.step aead self event = some next) :
    next.Serving where
  orderly := serving.orderly.step performed
  guard := serving.guard.step performed
  placed := serving.placed.step serving.orderly performed
  opened :=
    serving.opened.step serving.orderly serving.placed performed
  reads := serving.reads.step performed
  writes := serving.writes.step performed

theorem Serving.close
    (serving : self.Serving)
    (running : self.fault = none) :
    self.close.Serving := by
  have performed :
      TcpServer.step Aead.checksumAead self .close = some self.close :=
    step_of_transition running .close
  exact serving.step performed

/-- A failed header read returns `-1` once the connection is stopped. -/
theorem HeaderFailed.returns
    (aead : Aead 16)
    (failed : self.HeaderFailed)
    (running : self.fault = none)
    (stopped : self.connection.stopped = true) :
    ∃ next error packet,
      TcpServer.step aead self .resume = some next ∧
        next.fault = none ∧
        next.receiveLoop = .ended ∧
        next.packets = self.packets ++ [⟨-1, error, packet⟩] := by
  obtain ⟨socket, op, error, isHeader, failed⟩ := failed
  have resumed :
      self.resumeHeader aead socket op.got (some error) =
        (self.record (.readFailed socket)).returnFrom (-1)
          (some error) := by
    unfold TcpServer.resumeHeader
    rw [if_pos (by simp)]
    exact if_pos stopped
  have recorded :
      (self.record (.readFailed socket)).packets = self.packets :=
    (Silent.kept.record _ rfl Silent.refl).packets
  refine ⟨self.resumeHeader aead socket op.got (some error),
    some error,
    self.connection.conn_recv_buffer.slice Size (-1 : Int).toNat,
    step_of_transition running (.resumeHeader isHeader failed),
    ?_, ?_, ?_⟩
  · simp [resumed, TcpServer.returnFrom, endReceiveLoop, record, running]
  · simp [resumed, TcpServer.returnFrom, endReceiveLoop]
  · rw [resumed, packets_returnFrom, recorded]
    rfl

/-- From a payload read `ReceiveFrom` never returns `-1`. -/
theorem packets_resumePayload
    (aead : Aead 16)
    (reading : SocketId)
    (bytes_read : Nat)
    (error : Option ErrorCode) :
    (self.resumePayload aead reading bytes_read error).packets =
        self.packets ∨
      ∃ (value : Nat) (packet : List UInt8),
        (self.resumePayload aead reading bytes_read error).packets =
          self.packets ++ [⟨value, error, packet⟩] := by
  have silent := silent_readFailed self reading error
  unfold TcpServer.resumePayload
  simp only
  generalize
    (if error.isSome then
      self.record (.readFailed reading)
    else
      self) = state at silent ⊢
  split
  · exact Or.inl (Silent.kept.receiveFrom silent).packets
  · split
    · exact Or.inl silent.packets
    · rename_i protocol header accepted _
      split
      · have opened :
            (state.openPayload protocol header).packets =
              self.packets :=
          silent.packets
        refine Or.inr ⟨PAYLOAD_LENGTH header,
          header.slice Size (PAYLOAD_LENGTH header), ?_⟩
        rw [packets_returnFrom]
        exact congrArg (· ++ _) opened
      · refine Or.inl (Silent.kept.receiveFrom ?_).packets
        exact { silent with }

/--
Once the connection is stopped, `ReceiveFrom` returns from a failed header
read and from nowhere else.
-/
theorem headerFailed_of_returns
    {error : Option ErrorCode}
    {packet : List UInt8}
    (performed : TcpServer.step aead self .resume = some next)
    (returned : next.packets = self.packets ++ [⟨-1, error, packet⟩]) :
    self.HeaderFailed := by
  have loud : next.packets ≠ self.packets := by
    rw [returned]
    simp
  obtain ⟨_, transition⟩ := step_transition performed
  cases transition with
  | wake _ =>
      exact (loud packets_receiveFrom).elim
  | @resumeHeader socket op completion isHeader completed =>
      cases completion with
      | none =>
          refine (loud ?_).elim
          exact (Silent.kept.resumeHeader socket _ Silent.refl
            fun _ => { Silent.refl with }).packets
      | some failure => exact ⟨_, _, failure, isHeader, completed⟩
  | resumePayload _ _ =>
      rcases packets_resumePayload aead _ _ _ with
          silent | ⟨value, _, opened⟩
      · exact (loud silent).elim
      · have same := List.append_cancel_left (opened.symm.trans returned)
        simp only [List.cons.injEq, Returned.mk.injEq] at same
        omega

/-- A write that has completed, or failed, returns to the TUN loop. -/
theorem Serving.sendToReturns
    (serving : self.Serving)
    (running : self.fault = none)
    (stopped : self.connection.stopped = true) :
    TcpRole.SendToReturns aead (.server self) := by
  intro isWriting
  cases writing : self.sendLoop with
  | readTun => exact (isWriting writing).elim
  | writing socket frame sent outcome =>
      cases outcome with
      | none =>
          have current :=
            serving.writes socket (by rw [writing]; rfl)
          rw [(serving.guard.stoppedClosed stopped).1] at current
          cases current
      | some error =>
          refine ⟨_, step_of_transition running
            (.resumeSendTo writing), ?_, sendLoop_resumeSendTo _ _⟩
          unfold TcpServer.resumeSendTo
          simp only
          split
          · rw [if_pos (by exact stopped)]
            exact running
          · exact running

/-- After `Close` nothing is selected any more. -/
theorem Serving.neverSelected
    (serving : self.Serving)
    (stopped : self.connection.stopped = true)
    {events : List TcpRoleEvent}
    {final : TcpRole}
    (reached :
      StepSystem.run (TcpRole.step aead) (.server self) events =
        some final) :
    final.connection.selected = false := by
  let Stopped : TcpRole → Prop
    | .server server =>
        server.PointerGuard ∧ server.connection.stopped = true
    | .client _ => False
  have kept :
      ∀ {role event after},
        Stopped role →
        TcpRole.step aead role event = some after →
        Stopped after := by
    intro role event after holds performed
    unfold TcpRole.step at performed
    split at performed
    · obtain ⟨next, steps, rfl⟩ := Option.map_eq_some_iff.mp performed
      exact ⟨holds.1.step steps,
        (step_selection steps).stopped holds.2⟩
    · exact holds.elim
    · cases performed
  have initially : Stopped (.server self) := ⟨serving.guard, stopped⟩
  have holds : Stopped final :=
    StepSystem.run_invariant (fun holds performed =>
      kept holds performed) initially reached
  cases final with
  | server state => exact (holds.1.stoppedClosed holds.2).2.1
  | client _ => exact holds.elim

/--
In any state a run reaches, the connection is closed exactly if it is stopped,
no connection waits, and `ReceiveFrom` is about to return `-1` or not called.
-/
theorem Serving.closed_iff
    (serving : self.Serving)
    (running : self.fault = none) :
    TcpRole.Closed aead (.server self) ↔
      self.connection.stopped = true ∧
        self.connection.replace_socket = none ∧
        (self.HeaderFailed ∨ self.receiveLoop = .writeTun ∨
          self.receiveLoop = .ended) := by
  constructor
  · intro closed
    refine ⟨closed.stopped, ?_, ?_⟩
    · rw [Option.eq_none_iff_forall_ne_some]
      intro socket waiting
      have isOpen := serving.opened.waitingOpen socket waiting
      have isClosed := closed.noneOpen socket (Or.inr waiting)
      cases isClosed.symm.trans isOpen
    · by_cases receiving : TcpRole.receiving (.server self) = true
      · obtain ⟨next, error, packet, performed, _, returned⟩ :=
          closed.receiveReturns receiving
        exact Or.inl (headerFailed_of_returns performed returned)
      · simp only [TcpRole.receiving] at receiving
        split at receiving
        · rename_i writing
          exact Or.inr (Or.inl writing)
        · rename_i ended
          exact Or.inr (Or.inr ended)
        · exact (receiving rfl).elim
  · rintro ⟨stopped, noneWaits, received⟩
    obtain ⟨null, _, notAccepting⟩ :=
      serving.guard.stoppedClosed stopped
    exact
      { running := running
        notAccepting := notAccepting
        noneOpen := fun socket held => by
          rcases held with current | waiting
          · cases null.symm.trans current
          · cases noneWaits.symm.trans waiting
        neverSelected := fun _ _ reached =>
          serving.neverSelected stopped reached
        stopped := stopped
        receiveReturns := fun receiving => by
          rcases received with failed | writing | ended
          · obtain ⟨next, error, packet, performed, safe, _, returned⟩ :=
              failed.returns aead running stopped
            exact ⟨next, error, packet, performed, safe, returned⟩
          · simp [TcpRole.receiving, writing] at receiving
          · simp [TcpRole.receiving, ended] at receiving
        sendToReturns := serving.sendToReturns running stopped }

/-! ## `Close` -/

/-- Of a header read that is not in progress, only an error is looked at. -/
theorem leavesOnClose_iff
    (idle : self.receiveLoop.pendingRead = none) :
    self.receiveLoop.leavesOnClose = true ↔
      self.HeaderFailed ∨ self.receiveLoop = .writeTun ∨
        self.receiveLoop = .ended := by
  unfold HeaderFailed
  cases receiving : self.receiveLoop with
  | waitSelected woken => simp [ReceiveLoopPc.leavesOnClose]
  | readPayload socket op => simp [ReceiveLoopPc.leavesOnClose]
  | writeTun => simp [ReceiveLoopPc.leavesOnClose]
  | ended => simp [ReceiveLoopPc.leavesOnClose]
  | readHeader socket op =>
      obtain ⟨offset, want, got, outcome⟩ := op
      rw [receiving] at idle
      match outcome with
      | none => cases idle
      | some none => simp [ReceiveLoopPc.leavesOnClose]
      | some (some error) => simp [ReceiveLoopPc.leavesOnClose]

/-- `Close` leaves `ReceiveFrom` in the operation it is in. -/
theorem leavesOnClose_close :
    self.close.receiveLoop.leavesOnClose =
      self.receiveLoop.leavesOnClose := by
  let Same (next : TcpServer) : Prop :=
    next.receiveLoop.leavesOnClose = self.receiveLoop.leavesOnClose
  have same : Same self.close := by
    apply close_rule
    case refused => rfl
    case null =>
      intro _ _
      rfl
    case closed =>
      intro socket _ _
      exact ReceiveLoopPc.leavesOnClose_abort _ _
  exact same

theorem close_receiveLoop_eq_writeTun :
    self.close.receiveLoop = .writeTun ↔
      self.receiveLoop = .writeTun := by
  have aborted (pc : ReceiveLoopPc) (socket : SocketId) :
      pc.abort socket = .writeTun ↔ pc = .writeTun := by
    cases pc with
    | readHeader reading op =>
        simp only [ReceiveLoopPc.abort]
        split <;> simp
    | readPayload reading op =>
        simp only [ReceiveLoopPc.abort]
        split <;> simp
    | _ => simp [ReceiveLoopPc.abort]
  let Same (next : TcpServer) : Prop :=
    next.receiveLoop = .writeTun ↔ self.receiveLoop = .writeTun
  have same : Same self.close := by
    apply close_rule
    case refused => exact Iff.rfl
    case null =>
      intro _ _
      exact Iff.rfl
    case closed =>
      intro socket _ _
      exact aborted _ _
  exact same

theorem Serving.close_fault
    (serving : self.Serving)
    (running : self.fault = none)
    (spawned : 0 < self.connection.async_tasks_running) :
    self.close.fault = none := by
  obtain ⟨_, _, closes, _⟩ :=
    TCPConnection.Close_stops spawned serving.guard.selectedSet
  exact (close_members closes).2.1.trans running

/-- The server's `Close` closes the connection exactly under the condition. -/
theorem Serving.close_iff
    (serving : self.Serving)
    (running : self.fault = none)
    (spawned : 0 < self.connection.async_tasks_running) :
    TcpRole.Closed aead (.server self.close) ↔
      TcpRole.closable (.server self) = true := by
  obtain ⟨connection, closed, closes, sameWaiting, stops⟩ :=
    TCPConnection.Close_stops spawned serving.guard.selectedSet
  obtain ⟨members, sameFault, _⟩ := close_members closes
  rw [← members] at sameWaiting stops
  have after := serving.close running
  rw [after.closed_iff (sameFault.trans running), TcpRole.closable,
    ← stops, ← sameWaiting, ← leavesOnClose_close, Bool.and_eq_true,
    Bool.and_eq_true, and_assoc, Option.isNone_iff_eq_none]
  refine and_congr_right fun stopped => and_congr_right fun _ => ?_
  refine (leavesOnClose_iff ?_).symm
  rw [Option.eq_none_iff_forall_ne_some]
  intro socket pending
  have current := after.reads socket pending
  cases (after.guard.stoppedClosed stopped).1.symm.trans current

/-- `ReceiveFrom` is about to return, or the receive loop has ended. -/
def Leaving (server : TcpServer) : Prop :=
  server.HeaderFailed ∨ server.receiveLoop = .ended

/-- The connection is closed, whatever happens next. -/
structure Down (server : TcpServer) : Prop where
  serving : server.Serving
  stopped : server.connection.stopped = true
  noneWaits : server.connection.replace_socket = none
  leaving : server.Leaving

theorem Leaving.kept : KeptByUpdates Leaving where
  setPointers := fun _ _ _ leaving => leaving
  finish := fun _ _ leaving => leaving
  wake := fun leaving =>
    leaving.imp HeaderFailed.kept.wake fun ended => by
      simp [setReceiveLoop, ended, ReceiveLoopPc.wake]
  abort := fun target leaving =>
    leaving.imp (HeaderFailed.kept.abort target) fun ended => by
      simp [TcpServer.abort, ended, ReceiveLoopPc.abort]
  shut := fun _ leaving => leaving
  record := fun _ _ leaving => leaving
  nullDereference := fun leaving => leaving

theorem Leaving.step
    {event : TcpServerEvent}
    (leaving : self.Leaving)
    (running : self.fault = none)
    (stopped : self.connection.stopped = true)
    (performed : TcpServer.step aead self event = some next) :
    next.Leaving := by
  have elsewhere {pc : ReceiveLoopPc}
      (receiving : self.receiveLoop = pc)
      (other :
        ∀ socket op error, pc = .readHeader socket op →
          op.outcome ≠ some (some error))
      (running : pc ≠ .ended) :
      False := by
    rcases leaving with ⟨socket, op, error, isHeader, failed⟩ | ended
    · exact other socket op error (receiving.symm.trans isHeader) failed
    · exact running (receiving.symm.trans ended)
  obtain ⟨_, transition⟩ := step_transition performed
  cases transition with
  | resumeTryHeader reading _ =>
      exact Leaving.kept.resumeTryHeader (by simp [reading]) _ leaving
        (fun _ => leaving) fun _ _ => leaving
  | resumeTryPayload reading _ =>
      exact Leaving.kept.resumeTryPayload (by simp [reading]) _ _
        (fun leaving => leaving) leaving fun _ _ _ => leaving
  | wake waiting => exact (elsewhere waiting nofun nofun).elim
  | arriveHeader reading accepts _ =>
      refine (elsewhere reading ?_ nofun).elim
      rintro _ _ _ ⟨⟩ failed
      cases accepts.1.symm.trans failed
  | arrivePayload reading _ _ =>
      exact (elsewhere reading nofun nofun).elim
  | @failHeader socket op error reading =>
      rcases leaving with ⟨_, _, failure, isHeader, failed⟩ | ended
      · obtain ⟨rfl, rfl⟩ :=
          ReceiveLoopPc.readHeader.inj (reading.symm.trans isHeader)
        exact Or.inl ⟨_, _, failure,
          congrArg _ (ReadOp.fail_completed failed error), failed⟩
      · cases reading.symm.trans ended
  | failPayload _ reading => exact (elsewhere reading nofun nofun).elim
  | resumeHeader reading _ =>
      rcases leaving with failed | ended
      · obtain ⟨other, _, _, performed', _, ended, _⟩ :=
          failed.returns aead running stopped
        obtain rfl := Option.some.inj (performed.symm.trans performed')
        exact Or.inr ended
      · cases reading.symm.trans ended
  | resumePayload reading _ =>
      exact (elsewhere reading nofun nofun).elim
  | tunWritten _ writing =>
      exact (elsewhere writing nofun nofun).elim
  | sendTo packet draw _ =>
      unfold Leaving HeaderFailed
      rw [sendTo_receiveLoop]
      exact leaving
  | resumeSendTo _ => exact Leaving.kept.resumeSendTo _ _ leaving
  | close => exact Leaving.kept.close leaving
  | _ => exact leaving

/-- With the acceptor closed no connection starts to wait. -/
theorem SelectionStep.noneWaits
    {event : TcpServerEvent}
    (step : SelectionStep self event next)
    (notAccepting : self.connection.tcp_acceptor_open = false)
    (noneWaits : self.connection.replace_socket = none) :
    next.connection.replace_socket = none := by
  change self.selection.replace_socket = none at noneWaits
  change next.selection.replace_socket = none
  cases step with
  | unchanged same => rw [same, noneWaits]
  | first _ _ _ _ _ same => rw [same, noneWaits]
  | replacing _ _ _ _ accepting _ =>
      cases notAccepting.symm.trans accepting
  | lost _ _ same => rw [same, noneWaits]
  | swapped _ _ _ same => rw [same]
  | deselected _ _ _ same => rw [same, noneWaits]
  | refused _ same => rw [same, noneWaits]
  | closed _ _ same => rw [same, noneWaits]

theorem Down.step
    {event : TcpServerEvent}
    (down : self.Down)
    (performed : TcpServer.step aead self event = some next) :
    next.Down where
  serving := down.serving.step performed
  stopped := (step_selection performed).stopped down.stopped
  noneWaits :=
    (step_selection performed).noneWaits
      (down.serving.guard.stoppedClosed down.stopped).2.2
      down.noneWaits
  leaving :=
    down.leaving.step (step_transition performed).1 down.stopped
      performed

/-- Under the condition the connection is closed for good. -/
theorem Serving.close_down
    (serving : self.Serving)
    (running : self.fault = none)
    (closed : TcpRole.Closed aead (.server self.close))
    (notWriting : self.receiveLoop ≠ .writeTun) :
    self.close.Down := by
  have after := serving.close running
  obtain ⟨stopped, noneWaits, received⟩ :=
    (after.closed_iff closed.running).mp closed
  refine ⟨after, stopped, noneWaits, received.imp_right fun left => ?_⟩
  rcases left with writing | ended
  · exact (notWriting (close_receiveLoop_eq_writeTun.mp writing)).elim
  · exact ended

/-- After the write to the TUN device `ReceiveFrom` waits, for nothing. -/
theorem Serving.reopens
    (aead : Aead 16)
    (serving : self.Serving)
    (running : self.fault = none)
    (stopped : self.connection.stopped = true)
    (writing : self.receiveLoop = .writeTun) :
    ∃ next,
      TcpServer.step aead self (.tunWritten false) = some next ∧
        next.fault = none ∧
        ¬ TcpRole.Closed aead (.server next) := by
  have performed : TcpServer.step aead self (.tunWritten false) = _ :=
    step_of_transition running (.tunWritten false writing)
  have after := serving.step performed
  have waits :
      self.receiveFrom =
        { self with receiveLoop := .waitSelected false } := by
    unfold TcpServer.receiveFrom
    rw [if_neg (by
      rw [(serving.guard.stoppedClosed stopped).2.1]
      nofun)]
  rw [if_neg (by nofun), waits] at performed after
  refine ⟨_, performed, running, fun closed => ?_⟩
  obtain ⟨_, _, ⟨_, _, _, ⟨⟩, _⟩ | ⟨⟨⟩⟩ | ⟨⟨⟩⟩⟩ :=
    (after.closed_iff (by exact running)).mp closed

end

end TcpServer

namespace TcpRole

variable
    {aead : Aead 16}
    {role : TcpRole}

/-- What holds in every run of either role. -/
def Serving : TcpRole → Prop
  | .server state => state.Serving
  | .client state =>
      state.connection.selection = TcpClient.connectedSelection

theorem Starts.serving
    (starts : role.Starts) :
    role.Serving := by
  cases starts with
  | server conn_key addresses =>
      exact TcpServer.Serving.create conn_key addresses
  | client conn_key settings => exact rfl

theorem Serving.step
    {event : TcpRoleEvent}
    {next : TcpRole}
    (serving : role.Serving)
    (performed : TcpRole.step aead role event = some next) :
    next.Serving := by
  unfold TcpRole.step at performed
  split at performed
  · obtain ⟨next, steps, rfl⟩ := Option.map_eq_some_iff.mp performed
    exact TcpServer.Serving.step serving steps
  · obtain ⟨next, steps, rfl⟩ := Option.map_eq_some_iff.mp performed
    exact TcpClient.step_connected serving steps
  · cases performed

theorem serving_of_run
    {start : TcpRole}
    {events : List TcpRoleEvent}
    (starts : start.Starts)
    (reached :
      StepSystem.run (step aead) start events = some role) :
    role.Serving :=
  StepSystem.run_invariant
    (fun serving performed => Serving.step serving performed)
    starts.serving reached

/-- A server's connection that is closed for good. -/
def Down : TcpRole → Prop
  | .server state => state.Down
  | .client _ => False

theorem down_of_run
    {events : List TcpRoleEvent}
    {state : TcpServer}
    (down : state.Down)
    (reached :
      StepSystem.run (step aead) (.server state) events = some role) :
    role.Down := by
  refine StepSystem.run_invariant ?_ (by exact down) reached
  intro before event after holds performed
  unfold step at performed
  split at performed
  · obtain ⟨next, steps, rfl⟩ := Option.map_eq_some_iff.mp performed
    exact TcpServer.Down.step holds steps
  · exact holds.elim
  · cases performed

/-- The client's `Close` stops nothing. -/
theorem Serving.client_not_stopped
    {state : TcpClient}
    (serving : Serving (.client state)) :
    (close (.client state)).connection.stopped = false := by
  rw [close, TcpClient.close_eq serving]
  exact congrArg Selection.stopped serving

theorem Serving.close_iff
    (serving : role.Serving)
    (running : role.fault = none)
    (spawned : 0 < role.connection.async_tasks_running) :
    role.close.Closed aead ↔ role.closable = true := by
  cases role with
  | server state =>
      exact TcpServer.Serving.close_iff serving running spawned
  | client state =>
      refine iff_of_false (fun closed => ?_) nofun
      cases serving.client_not_stopped.symm.trans closed.stopped

/--
In every run and in either role, with a coroutine started by `Spawn` still
running: `Close` closes the connection exactly under the condition, which no
state of the client meets.
-/
theorem close_closes_iff
    (aead : Aead 16)
    (start role : TcpRole)
    (events : List TcpRoleEvent)
    (starts : start.Starts)
    (reached :
      StepSystem.run (step aead) start events = some role)
    (running : role.fault = none)
    (spawned : 0 < role.connection.async_tasks_running) :
    role.close.Closed aead ↔ role.closable = true :=
  (serving_of_run starts reached).close_iff running spawned

/-- The receive loop is in its write to the TUN device. -/
def writesTun : TcpRole → Bool
  | .server state => state.receiveLoop == .writeTun
  | .client state => state.receiveLoop == .writeTun

/--
The connection is closed from then on exactly if, besides, `ReceiveFrom` is
not called again.
-/
theorem stays_closed_iff
    (aead : Aead 16)
    (start role : TcpRole)
    (events : List TcpRoleEvent)
    (starts : start.Starts)
    (reached :
      StepSystem.run (step aead) start events = some role)
    (running : role.fault = none)
    (spawned : 0 < role.connection.async_tasks_running) :
    (∀ later final,
        StepSystem.run (step aead) role.close later = some final →
        final.fault = none →
        final.Closed aead) ↔
      role.closable = true ∧ role.writesTun = false := by
  have serving := serving_of_run starts reached
  have closes_iff : role.close.Closed aead ↔ _ :=
    serving.close_iff running spawned
  cases role with
  | client state =>
      refine iff_of_false (fun stays => ?_) nofun
      have safe : (close (.client state)).fault = none := by
        rw [close, TcpClient.close_eq serving]
        exact running
      have closed := stays [] _ rfl safe
      cases serving.client_not_stopped.symm.trans closed.stopped
  | server state =>
      have serving : state.Serving := serving
      constructor
      · intro stays
        have closed := stays [] _ rfl
          (TcpServer.Serving.close_fault serving running spawned)
        refine ⟨closes_iff.mp closed, Bool.eq_false_iff.mpr ?_⟩
        intro writing
        have writing : state.receiveLoop = .writeTun := by
          simpa [writesTun] using writing
        obtain ⟨next, performed, safe, reopened⟩ :=
          (serving.close running).reopens aead closed.running
            closed.stopped
            (TcpServer.close_receiveLoop_eq_writeTun.mpr writing)
        refine reopened
          (stays [.server (.tunWritten false)] (.server next) ?_ safe)
        simp [StepSystem.run, close, step, performed]
      · rintro ⟨closable, notWriting⟩
        have notWriting : state.receiveLoop ≠ .writeTun := by
          simpa [writesTun] using notWriting
        have down :=
          serving.close_down running (closes_iff.mpr closable) notWriting
        intro later final performed safe
        have after := down_of_run down performed
        cases final with
        | server _ =>
            exact (after.serving.closed_iff safe).mpr
              ⟨after.stopped, after.noneWaits,
                after.leaving.imp_right Or.inr⟩
        | client _ => exact after.elim

/-- The server's first client is selected, and `ReceiveFrom` reads on. -/
def readingHeader : List TcpServerEvent :=
  TcpServer.connects 0 1 ++ [.resume]

/--
No client has come; a second one waits to take the place of the first; a
header is there, but has not been looked at; the payload is being read.
-/
def leftOpen : List (List TcpServerEvent) :=
  [[],
    readingHeader ++ TcpServer.connects 1 2,
    readingHeader ++
      [.arrive ((TcpServer.clientFrame 2).take Size)],
    readingHeader ++
      [.arrive ((TcpServer.clientFrame 2).take Size), .resume]]

theorem close_leaves_open :
    (∀ events ∈ leftOpen,
        ∃ role,
          StepSystem.run (step Aead.checksumAead)
              (.server TcpServer.exampleStart)
              (events.map .server) =
            some role ∧
          role.fault = none ∧
          0 < role.connection.async_tasks_running ∧
          ¬ role.close.Closed Aead.checksumAead) ∧
      ∀ settings,
        ¬ (close (.client (TcpClient.connect [49] settings))).Closed
          Aead.checksumAead := by
  constructor
  · intro events member
    have performed :
        (StepSystem.run (step Aead.checksumAead)
            (.server TcpServer.exampleStart)
            (events.map .server)).map
              (fun role =>
                (role.fault, role.connection.async_tasks_running,
                  role.closable)) =
          some (none, 1, false) := by
      revert events
      decide +kernel
    obtain ⟨role, reached, values⟩ :=
      Option.map_eq_some_iff.mp performed
    obtain ⟨running, one, notClosable⟩ := by
      simpa only [Prod.mk.injEq] using values
    have spawned : 0 < role.connection.async_tasks_running := by omega
    have serving :=
      serving_of_run (.server [49] Server.exampleServer) reached
    refine ⟨role, reached, running, spawned, fun closed => ?_⟩
    cases ((serving.close_iff running spawned).mp closed).symm.trans
      notClosable
  · intro settings closed
    have serving := (Starts.client [49] settings).serving
    cases serving.client_not_stopped.symm.trans closed.stopped

theorem close_closes_iff_readingHeader :
    ∃ role,
      StepSystem.run (step Aead.checksumAead)
          (.server TcpServer.exampleStart)
          (readingHeader.map .server) =
        some role ∧
      role.close.Closed Aead.checksumAead := by
  have performed :
      (StepSystem.run (step Aead.checksumAead)
          (.server TcpServer.exampleStart)
          (readingHeader.map .server)).map
            (fun role =>
              (role.fault, role.connection.async_tasks_running,
                role.closable)) =
        some (none, 1, true) := by
    decide +kernel
  obtain ⟨role, reached, values⟩ :=
    Option.map_eq_some_iff.mp performed
  obtain ⟨running, one, closable⟩ := by
    simpa only [Prod.mk.injEq] using values
  exact ⟨role, reached,
    (close_closes_iff Aead.checksumAead _ role _
      (.server [49] Server.exampleServer) reached running
      (by omega)).mpr closable⟩

end TcpRole

end Dsvpn
