import Dsvpn.ConnSocket
import Dsvpn.FailureHandlers

namespace Dsvpn

/-!
# What ends an authenticated connection

The log of a run tells which sockets were authenticated, and which were
closed, cancelled, dropped or deselected.  The error handlers of `ReceiveFrom`
and `SendTo` act on the socket that is current when they run; as long as that
is the socket whose operation failed, an authenticated socket is only touched
after its own failure or after a later takeover.
-/

/--
A read or write on the socket failed, or another connection, authenticated
after it, took over.
-/
def Excused (log : List Action) (socket : SocketId) : Prop :=
  .readFailed socket ∈ log ∨
    .writeFailed socket ∈ log ∨
    ∃ earlier later other,
      log = earlier ++ .chosen socket true :: later ∧
        other ≠ socket ∧
        .chosen other true ∈ later

/-- An authenticated socket is touched only when that is excused. -/
def AuthenticatedSurvive (log : List Action) : Prop :=
  ∀ before action after socket,
    log = before ++ action :: after →
    action.touched = some socket →
    .chosen socket true ∈ before →
    Excused before socket

namespace AuthenticatedSurvive

/-- One more action is fine if what it touches is excused. -/
theorem append
    {log : List Action}
    (survive : AuthenticatedSurvive log)
    {action : Action}
    (excused :
      ∀ socket,
        action.touched = some socket →
        .chosen socket true ∈ log →
        Excused log socket) :
    AuthenticatedSurvive (log ++ [action]) := by
  intro before other after socket shape touched authenticated
  rcases List.eq_nil_or_concat after with rfl | ⟨rest, last, rfl⟩
  · obtain ⟨rfl, same⟩ := List.append_inj' shape rfl
    obtain rfl := List.singleton_inj.mp same
    exact excused socket touched authenticated
  · have split :
        log ++ [action] = (before ++ other :: rest) ++ [last] := by
      simpa using shape
    obtain ⟨rfl, _⟩ := List.append_inj' split rfl
    exact survive before other rest socket rfl touched authenticated

end AuthenticatedSurvive

/-- An excuse lasts. -/
theorem Excused.append
    {log : List Action}
    {socket : SocketId}
    (excused : Excused log socket)
    (action : Action) :
    Excused (log ++ [action]) socket := by
  rcases excused with read | write | ⟨earlier, later, other, rfl, rest⟩
  · exact Or.inl (List.mem_append_left _ read)
  · exact Or.inr (Or.inl (List.mem_append_left _ write))
  · obtain ⟨different, chosen⟩ := rest
    exact Or.inr (Or.inr
      ⟨earlier, later ++ [action], other, by simp, different,
        List.mem_append_left _ chosen⟩)

/-- A connection that authenticates later excuses what is done to others. -/
theorem excused_of_chosen
    {log : List Action}
    {socket other : SocketId}
    (authenticated : .chosen socket true ∈ log)
    (different : other ≠ socket) :
    Excused (log ++ [.chosen other true]) socket := by
  obtain ⟨earlier, later, rfl⟩ := List.append_of_mem authenticated
  exact Or.inr (Or.inr
    ⟨earlier, later ++ [.chosen other true], other, by simp, different,
      by simp⟩)

/-- What follows an action of a list is in the list's tail. -/
theorem mem_tail_of_later
    {first action other : Action}
    {rest earlier later : List Action}
    (shape : first :: rest = earlier ++ action :: later)
    (member : other ∈ later) :
    other ∈ rest := by
  cases earlier with
  | nil =>
      obtain ⟨_, rfl⟩ := List.cons.inj shape
      exact member
  | cons _ middle =>
      obtain ⟨_, rfl⟩ := List.cons.inj shape
      exact List.mem_append_right _ (List.mem_cons_of_mem _ member)

namespace TcpServer

/-- A current socket that is not selected has failed; the log is as claimed. -/
structure TakeoverTracked (server : TcpServer) : Prop where
  unselectedFailed :
    ∀ socket, server.connection.conn_socket = some socket →
      server.connection.selected = false →
      Excused server.log socket
  survive : AuthenticatedSurvive server.log

section

variable
    {aead : Aead 16}
    {self next : TcpServer}

theorem TakeoverTracked.create
    (conn_key : List UInt8)
    (addresses : Server) :
    (create conn_key addresses).TakeoverTracked where
  unselectedFailed := nofun
  survive := fun before action after socket shape => by
    simp [TcpServer.create] at shape

/-- Recording an action that touches nothing, or something excused. -/
theorem TakeoverTracked.record
    (tracked : self.TakeoverTracked)
    (action : Action)
    (excused :
      ∀ socket,
        action.touched = some socket →
        .chosen socket true ∈ self.log →
        Excused self.log socket) :
    (self.record action).TakeoverTracked where
  unselectedFailed := fun socket current unselected =>
    (tracked.unselectedFailed socket current unselected).append action
  survive := tracked.survive.append excused

theorem TakeoverTracked.abort
    (tracked : self.TakeoverTracked)
    (target : SocketId) :
    (self.abort target).TakeoverTracked :=
  { tracked with }

/-- Dropping a socket takes no excuse away. -/
theorem excused_drop
    {socket : SocketId}
    (target : Option SocketId)
    (excused :
      .chosen socket true ∈ self.log → Excused self.log socket)
    (authenticated : .chosen socket true ∈ (self.drop target).log) :
    Excused (self.drop target).log socket := by
  cases target with
  | none =>
      exact excused authenticated
  | some target =>
      rcases List.mem_append.mp authenticated with earlier | now
      · exact (excused earlier).append _
      · simp at now

theorem TakeoverTracked.drop
    (tracked : self.TakeoverTracked)
    {target : Option SocketId}
    (excused :
      ∀ socket,
        target = some socket →
        .chosen socket true ∈ self.log →
        Excused self.log socket) :
    (self.drop target).TakeoverTracked := by
  cases target with
  | none =>
      exact tracked
  | some target =>
      have aborted := tracked.abort target
      refine TakeoverTracked.record ?_ _ ?_
      · exact { aborted with }
      · intro socket touched authenticated
        exact excused socket touched authenticated

theorem TakeoverTracked.receiveFrom
    (tracked : self.TakeoverTracked) :
    self.receiveFrom.TakeoverTracked := by
  apply receiveFrom_rule
  case null =>
    intro _ _
    exact { tracked with }
  case reads =>
    intro socket _ _
    exact { tracked with }
  case sleeps =>
    intro _
    exact { tracked with }

theorem TakeoverTracked.returnFrom
    (tracked : self.TakeoverTracked)
    (bytes_read : Int)
    (error : Option ErrorCode) :
    (self.returnFrom bytes_read error).TakeoverTracked := by
  have returned :=
    tracked.record
      (.returned ⟨bytes_read, error,
        self.connection.conn_recv_buffer.slice
          ProtocolHeader.Size bytes_read.toNat⟩)
      (fun _ touched => by cases touched)
  refine returnFrom_rule returned (fun held => { held with })
    (fun held => held.receiveFrom) ?_
  intro state packet held
  have written :=
    held.record (.tunWritten packet) (fun _ touched => by cases touched)
  exact { written with }

/-- Losing the current connection is excused when its own read failed. -/
theorem TakeoverTracked.loseConnection
    (tracked : self.TakeoverTracked)
    (failed :
      ∀ socket, self.connection.conn_socket = some socket →
        .readFailed socket ∈ self.log) :
    self.loseConnection.TakeoverTracked := by
  have closed
      (socket : SocketId)
      (current : self.connection.conn_socket = some socket) :
      (self.closeSocket socket).TakeoverTracked := by
    refine TakeoverTracked.record ?_ _ ?_
    · exact { tracked.abort socket with }
    · intro touchedSocket touched _
      obtain rfl := Option.some.inj touched
      exact Or.inl (failed _ current)
  apply loseConnection_rule
  case null =>
    intro _
    exact { tracked with }
  case alone =>
    intro socket current _
    apply TakeoverTracked.receiveFrom
    exact
      { unselectedFailed := nofun
        survive := (closed socket current).survive }
  case replaced =>
    intro socket replacement current _
    apply TakeoverTracked.receiveFrom
    exact
      { unselectedFailed := nofun
        survive := (closed socket current).survive }

/-- `ReceiveFrom` after a header read of the current socket. -/
theorem TakeoverTracked.resumeHeader
    (tracked : self.TakeoverTracked)
    {socket : SocketId}
    {bytes_read : Nat}
    {error : Option ErrorCode}
    (own :
      error.isSome →
      ∀ current, self.connection.conn_socket = some current →
        current = socket) :
    (self.resumeHeader aead socket bytes_read
      error).TakeoverTracked := by
  cases error with
  | some error =>
      have failed :=
        tracked.record (.readFailed socket)
          (fun _ touched => by cases touched)
      refine resumeHeader_failed (fun _ => failed.returnFrom _ _) ?_ _
      intro _
      apply failed.loseConnection
      intro current isCurrent
      rw [own rfl current isCurrent]
      exact List.mem_append_right _ List.mem_cons_self
  | none =>
      have opened (header : PacketBuffer) :
          (self.setBuffer header).TakeoverTracked :=
        { tracked with }
      apply resumeHeader_complete
      case nothing =>
        intro _
        exact tracked.receiveFrom
      case empty =>
        intro header _
        exact (opened header).receiveFrom
      case null =>
        intro header _ _
        exact { opened header with }
      case announced =>
        intro header current payload_len _ _
        exact { opened header with }

theorem TakeoverTracked.resumePayload
    (tracked : self.TakeoverTracked)
    (socket : SocketId)
    (bytes_read : Nat)
    (error : Option ErrorCode) :
    (self.resumePayload aead socket bytes_read
      error).TakeoverTracked := by
  refine resumePayload_rule ?recorded tracked
    (fun held => { held with }) ?opened (fun held => held.receiveFrom)
    (fun _ held => held.returnFrom _ _) bytes_read
  case recorded =>
    exact tracked.record _ (fun _ touched => by cases touched)
  case opened =>
    intro state protocol header held
    exact { held with }

/--
A connection that authenticated takes over: what it replaces is excused, since
it was authenticated earlier, or had failed already.
-/
theorem TakeoverTracked.choose
    (orderly : self.Orderly)
    (tracked : self.TakeoverTracked)
    {socket : SocketId}
    {authenticated : Bool}
    (active : self.tryReceive socket ≠ .finished)
    (proven : self.connection.selected = true → authenticated = true) :
    (self.choose socket authenticated).TakeoverTracked := by
  have recorded :=
    tracked.record (.chosen socket authenticated)
      (fun _ touched => by cases touched)
  have excused
      (isAuthenticated : authenticated = true)
      (other : SocketId)
      (finished : self.tryReceive other = .finished)
      (chosen :
        .chosen other true ∈
          self.log ++ [.chosen socket authenticated]) :
      Excused (self.log ++ [.chosen socket authenticated]) other := by
    subst isAuthenticated
    have different : socket ≠ other := by
      rintro rfl
      exact active finished
    rcases List.mem_append.mp chosen with earlier | now
    · exact excused_of_chosen earlier different
    · simp [different.symm] at now
  have queued
      (selected : self.connection.selected = true) :
      (self.queueReplacement socket authenticated).TakeoverTracked := by
    apply TakeoverTracked.drop
    · exact { recorded with }
    · intro other waiting chosen
      exact excused (proven selected) other
        (orderly.waitingFinished other waiting) chosen
  apply choose_rule
  case first =>
    intro unselected
    apply TakeoverTracked.drop
    · exact
        { unselectedFailed := nofun
          survive := recorded.survive }
    · intro other isCurrent _
      exact
        (tracked.unselectedFailed other isCurrent unselected).append _
  case null =>
    intro selected _
    exact { queued selected with }
  case cancelled =>
    intro current selected isCurrent _
    refine ((queued selected).abort current).record _ ?_
    intro touchedSocket touched chosen
    obtain rfl := Option.some.inj touched
    exact excused_drop _
      (excused (proven selected) current
        (orderly.currentFinished _ isCurrent))
      chosen
  case thrown =>
    intro current selected _ _
    exact { queued selected with }

theorem TakeoverTracked.resumeTryHeader
    (tracked : self.TakeoverTracked)
    (socket : SocketId)
    (bytes_read : Nat) :
    (self.resumeTryHeader aead socket bytes_read).TakeoverTracked := by
  apply resumeTryHeader_rule
  case nothing => exact { tracked with }
  case empty =>
    intro header
    exact { tracked with }
  case announced =>
    intro header payload_len
    exact { tracked with }

theorem TakeoverTracked.resumeTryPayload
    (orderly : self.Orderly)
    (tracked : self.TakeoverTracked)
    {socket : SocketId}
    (active : self.tryReceive socket ≠ .finished)
    {bytes_read : Nat}
    {error : Option ErrorCode}
    (proven :
      ∀ protocol header accepted,
        error = none →
        bytes_read ≠ 0 →
        self.connection.protocol.DecryptPayload aead
            self.connection.conn_recv_buffer =
          some (protocol, header, accepted) →
        self.connection.selected = true →
        accepted = true) :
    (self.resumeTryPayload aead socket bytes_read
      error).TakeoverTracked := by
  apply resumeTryPayload_rule
  case thrown => exact { tracked with }
  case nothing =>
    intro _ _
    exact { tracked with }
  case outside =>
    intro _
    exact { tracked with }
  case chosen =>
    intro protocol header accepted complete something opens _ _
    apply TakeoverTracked.choose
    · exact { orderly with }
    · exact { tracked with }
    · exact active
    · exact proven protocol header accepted complete something opens
  case unreached =>
    intro protocol header accepted _ _ _
    exact { tracked with }

theorem TakeoverTracked.sendTo
    (tracked : self.TakeoverTracked)
    (packet : List UInt8)
    (draw : SendDraw) :
    (self.sendTo aead packet draw).TakeoverTracked := by
  obtain ⟨_, _, _, changed, _⟩ := sendTo_changes aead self packet draw
  rw [changed]
  exact { tracked with }

/-- `SendTo` after a failed write to the current socket. -/
theorem TakeoverTracked.resumeSendTo
    (tracked : self.TakeoverTracked)
    {socket : SocketId}
    {error : Option ErrorCode}
    (own :
      error.isSome →
      ∀ current, self.connection.conn_socket = some current →
        current = socket) :
    (self.resumeSendTo socket error).TakeoverTracked := by
  have returned : TakeoverTracked { self with sendLoop := .readTun } :=
    { tracked with }
  have failed :=
    returned.record (.writeFailed socket)
      (fun _ touched => by cases touched)
  apply resumeSendTo_rule
  case returned => exact returned
  case stopped =>
    intro _ _
    exact failed
  case null =>
    intro _ _ _
    exact { failed with }
  case deselected =>
    intro current hasFailed _ isCurrent
    obtain rfl := own hasFailed current isCurrent
    have excused :
        Excused (self.log ++ [.writeFailed current]) current :=
      Or.inr (Or.inl (List.mem_append_right _ List.mem_cons_self))
    have cancelled :=
      (failed.abort current).record (.cancelled current) (by
        intro touchedSocket touched _
        obtain rfl := Option.some.inj touched
        exact excused)
    have deselected :=
      cancelled.record (.deselected current) (by
        intro touchedSocket touched _
        obtain rfl := Option.some.inj touched
        exact excused.append _)
    exact
      { unselectedFailed := fun other isOther _ => by
          obtain rfl : current = other :=
            Option.some.inj (isCurrent.symm.trans isOther)
          exact (excused.append _).append _
        survive := deselected.survive }

/-- A step whose handlers act on their own socket keeps the invariant. -/
theorem TakeoverTracked.step
    {event : TcpServerEvent}
    (orderly : self.Orderly)
    (tracked : self.TakeoverTracked)
    (own : self.handlersOnOwnSocket aead event = true)
    (performed : TcpServer.step aead self event = some next) :
    next.TakeoverTracked := by
  obtain ⟨_, transition⟩ := step_transition performed
  cases transition with
  | incoming _ => exact { tracked with }
  | resumeAccept _ => exact { tracked with }
  | disconnect _ => exact { tracked with }
  | arriveTryHeader _ _ _ => exact { tracked with }
  | arriveTryPayload _ _ _ => exact { tracked with }
  | arriveTryOutside _ _ _ => exact { tracked with }
  | failTryHeader _ _ => exact { tracked with }
  | failTryPayload _ _ => exact { tracked with }
  | resumeTryHeader _ _ => exact tracked.resumeTryHeader _ _
  | @resumeTryPayload socket op error reading completed =>
      apply TakeoverTracked.resumeTryPayload orderly tracked
      · simp [reading]
      · rintro protocol header accepted rfl something opens selected
        simpa [handlersOnOwnSocket, reading, opens, selected, completed,
          something] using own
  | wake _ => exact tracked.receiveFrom
  | arriveHeader _ _ _ => exact { tracked with }
  | arrivePayload _ _ _ => exact { tracked with }
  | arriveOutside _ _ _ => exact { tracked with }
  | failHeader _ _ => exact { tracked with }
  | failPayload _ _ => exact { tracked with }
  | @resumeHeader socket op error reading completed =>
      apply tracked.resumeHeader
      intro failed current isCurrent
      obtain ⟨reason, rfl⟩ := Option.isSome_iff_exists.mp failed
      obtain ⟨offset, want, got, outcome⟩ := op
      simp only at completed
      subst outcome
      simpa [handlersOnOwnSocket, reading, isCurrent] using own
  | resumePayload _ _ => exact tracked.resumePayload _ _ _
  | tunWritten failed _ =>
      cases failed with
      | false => exact tracked.receiveFrom
      | true => exact { tracked with }
  | sendTo packet draw _ => exact tracked.sendTo packet draw
  | writeSome _ _ _ => exact { tracked with }
  | writeError _ _ => exact { tracked with }
  | @resumeSendTo socket frame sent error writing =>
      apply tracked.resumeSendTo
      intro failed current isCurrent
      obtain ⟨reason, rfl⟩ := Option.isSome_iff_exists.mp failed
      simpa [handlersOnOwnSocket, writing, isCurrent] using own
  | close => cases own

/--
In every run from the start of the server whose steps all act on their own
socket, every socket that authenticated is closed, cancelled, dropped or
deselected only after an operation on it failed, or after a connection that
authenticated later took over; and no step that handles a failed or aborted
operation does any of this to another socket than that of the operation.
-/
theorem authenticated_survive
    (aead : Aead 16)
    (conn_key : List UInt8)
    (addresses : Server)
    (events : List TcpServerEvent)
    (final : TcpServer)
    (own :
      StepSystem.Along (step aead)
        (fun state event => state.handlersOnOwnSocket aead event = true)
        (create conn_key addresses) events)
    (reached :
      StepSystem.run (step aead) (create conn_key addresses) events =
        some final) :
    AuthenticatedSurvive final.log ∧
      StepSystem.Along (step aead)
        (fun state event => state.FailureOnOwnSocket aead event)
        (create conn_key addresses) events := by
  refine ⟨?_, own.imp failureOnOwnSocket⟩
  let Invariant (state : TcpServer) : Prop :=
    state.Orderly ∧ state.TakeoverTracked
  have tracked : Invariant final := by
    refine StepSystem.run_invariant_along ?_ ?_ own reached
    · rintro state event next ⟨orderly, tracked⟩ own performed
      exact ⟨orderly.step performed,
        TakeoverTracked.step orderly tracked own performed⟩
    · exact ⟨Orderly.create conn_key addresses,
        TakeoverTracked.create conn_key addresses⟩
  exact tracked.2.survive

/-- A second client takes over from the first, which `ReceiveFrom` closes. -/
def plainTakeover : List TcpServerEvent :=
  connects 0 1 ++ [.resume] ++ connects 1 2 ++ [.resume]

theorem authenticated_survive_plainTakeover :
    ∃ final,
      StepSystem.run (step Aead.checksumAead) exampleStart
          plainTakeover =
        some final ∧
      final.log =
        [.chosen 0 true, .chosen 1 true, .cancelled 0, .readFailed 0,
          .closed 0] ∧
      AuthenticatedSurvive final.log ∧
      StepSystem.Along (step Aead.checksumAead)
        (fun state event =>
          state.FailureOnOwnSocket Aead.checksumAead event)
        exampleStart plainTakeover := by
  have logged :
      (StepSystem.run (step Aead.checksumAead) exampleStart
          plainTakeover).map TcpServer.log =
        some
          [.chosen 0 true, .chosen 1 true, .cancelled 0, .readFailed 0,
            .closed 0] := by
    decide +kernel
  obtain ⟨final, reached, log⟩ := Option.map_eq_some_iff.mp logged
  exact ⟨final, reached, log,
    authenticated_survive Aead.checksumAead [49] Server.exampleServer
      plainTakeover final (by decide +kernel) reached⟩

/--
A client takes over while `SendTo` writes to the previous one: the takeover
aborts that write, and `SendTo` then cancels and deselects the new socket.
-/
def takeoverDuringWrite : List TcpServerEvent :=
  connects 0 1 ++
    [.resume, .sendTo toClient (SendDraw.constant 9)] ++
    connects 1 2 ++ [.resume, .resumeSendTo]

/--
A client takes over after a write to the previous one has failed: the aborted
read of the previous socket makes `ReceiveFrom` close the new one.
-/
def takeoverAfterWriteError : List TcpServerEvent :=
  connects 0 1 ++
    [.resume,
      .sendTo toClient (SendDraw.constant 9),
      .writeError .connection_reset,
      .resumeSendTo] ++
    connects 1 2 ++ [.resume]

theorem authenticated_lost :
    (∃ final,
      StepSystem.run (step Aead.checksumAead) exampleStart
          takeoverDuringWrite =
        some final ∧
      ¬ AuthenticatedSurvive final.log) ∧
    (∃ final,
      StepSystem.run (step Aead.checksumAead) exampleStart
          takeoverAfterWriteError =
        some final ∧
      ¬ AuthenticatedSurvive final.log) := by
  have duringWrite :
      (StepSystem.run (step Aead.checksumAead) exampleStart
          takeoverDuringWrite).map TcpServer.log =
        some
          [.chosen 0 true, .chosen 1 true, .cancelled 0, .readFailed 0,
            .closed 0, .writeFailed 0, .cancelled 1, .deselected 1] := by
    decide +kernel
  have afterWriteError :
      (StepSystem.run (step Aead.checksumAead) exampleStart
          takeoverAfterWriteError).map TcpServer.log =
        some
          [.chosen 0 true, .writeFailed 0, .cancelled 0, .deselected 0,
            .chosen 1 true, .dropped 0, .readFailed 0, .closed 1] := by
    decide +kernel
  constructor
  · obtain ⟨final, reached, log⟩ :=
      Option.map_eq_some_iff.mp duringWrite
    refine ⟨final, reached, ?_⟩
    rw [log]
    intro survive
    rcases survive
        [.chosen 0 true, .chosen 1 true, .cancelled 0, .readFailed 0,
          .closed 0, .writeFailed 0]
        (.cancelled 1) [.deselected 1] 1 rfl rfl (by simp) with
        read | write | ⟨earlier, later, other, shape, different, member⟩
    · simp at read
    · simp at write
    · have isOne := mem_tail_of_later shape member
      simp [different] at isOne
  · obtain ⟨final, reached, log⟩ :=
      Option.map_eq_some_iff.mp afterWriteError
    refine ⟨final, reached, ?_⟩
    rw [log]
    intro survive
    rcases survive
        [.chosen 0 true, .writeFailed 0, .cancelled 0, .deselected 0,
          .chosen 1 true, .dropped 0, .readFailed 0]
        (.closed 1) [] 1 rfl rfl (by simp) with
        read | write | ⟨earlier, later, other, shape, different, member⟩
    · simp at read
    · simp at write
    · have isOne := mem_tail_of_later shape member
      simp [different] at isOne

end

end TcpServer

end Dsvpn
