import Dsvpn.Amortized
import Dsvpn.Handlers
import Mathlib.Algebra.BigOperators.Ring.List
import Mathlib.Algebra.Ring.Nat
import Mathlib.Data.Finset.Card

namespace Dsvpn

open ProtocolHeader

/-!
# How often the outer loop of `ReceiveFrom` goes round

A round ends with a header read that has failed, which closes the connection it
read from, or after a header has been read, which takes bytes off the stream.
Neither can happen forever with the connections and bytes there are.
-/

/-- The receive loop waits for `selected_signal` or for a header. -/
def ReceiveLoopPc.beginsRound : ReceiveLoopPc → Bool
  | .waitSelected _ => true
  | .readHeader _ _ => true
  | _ => false

def ReceiveLoopPc.waits : ReceiveLoopPc → Bool
  | .waitSelected _ => true
  | _ => false

/-- A completion is handed to the receive loop. -/
def TcpServerEvent.resumesReceiveLoop : TcpServerEvent → Bool
  | .resume => true
  | .tunWritten _ => true
  | _ => false

/-- The bytes that reach the server. -/
def TcpServerEvent.received : TcpServerEvent → Nat
  | .arriveTry _ piece => piece.length
  | .arrive piece => piece.length
  | _ => 0

namespace TcpServer

/-- The receive loop has handled a completion, and goes on. -/
def turn
    (_ : TcpServer)
    (event : TcpServerEvent)
    (next : TcpServer) : Nat :=
  if
      event.resumesReceiveLoop ∧ next.fault = none ∧
        next.receiveLoop ≠ .ended then
    1
  else
    0

/--
The outer loop of `ReceiveFrom` goes round, or `ReceiveFrom` is called again.
The inner loop, which waits for a selected connection, stays in its round.
-/
def round
    (self : TcpServer)
    (event : TcpServerEvent)
    (next : TcpServer) : Nat :=
  if
      event.resumesReceiveLoop ∧ next.fault = none ∧
        self.receiveLoop.waits = false ∧
        next.receiveLoop.beginsRound then
    1
  else
    0

/-- The sockets whose `tryReceive` goes on. -/
def handshaking (self : TcpServer) : Finset SocketId :=
  (Finset.range self.accepted).filter
    fun socket => self.tryReceive socket ≠ .finished

end TcpServer

/-- The bytes of the header that is being read, or has been in this round. -/
def ReceiveLoopPc.headerBytes : ReceiveLoopPc → Nat
  | .readHeader _ op => op.got
  | .readPayload _ _ => Size
  | .writeTun => Size
  | _ => 0

/--
What is put by for the turns of the round: three for a header, one of them for
the payload and one for the TUN device, and one for a wait that was cancelled.
-/
def ReceiveLoopPc.turnsAhead : ReceiveLoopPc → Nat
  | .waitSelected true => Size
  | .waitSelected false => 0
  | .readHeader _ op => 3 * op.got
  | .readPayload _ _ => 2 * Size
  | .writeTun => Size
  | .ended => 0

/-- The connections, in three stages, and what the receive loop has put by. -/
structure Accounts where
  accepted : Nat
  handshakes : Nat
  held : Nat
  headerBytes : Nat
  turnsAhead : Nat

namespace Accounts

/-- Of a connection that is accepted, a round can be paid. -/
def forRounds (accounts : Accounts) : Int :=
  Size * (accounts.handshakes + accounts.held) + accounts.headerBytes -
    Size * accounts.accepted

/-- Two turns can be: the one that selects it, and the one that loses it. -/
def forTurns (accounts : Accounts) : Int :=
  Size * (2 * accounts.handshakes + accounts.held) + accounts.turnsAhead -
    2 * Size * accounts.accepted

/-- Nothing is put by. -/
def spent (accounts : Accounts) : Accounts :=
  { accounts with headerBytes := 0, turnsAhead := 0 }

end Accounts

namespace TcpServer

def accounts (self : TcpServer) : Accounts where
  accepted := self.accepted
  handshakes := self.handshaking.card
  held :=
    self.connection.conn_socket.toList.length +
      self.connection.replace_socket.toList.length
  headerBytes := self.receiveLoop.headerBytes
  turnsAhead := self.receiveLoop.turnsAhead

section

variable
    {aead : Aead 16}
    {self next : TcpServer}

theorem mem_handshaking
    {socket : SocketId} :
    socket ∈ self.handshaking ↔
      socket < self.accepted ∧ self.tryReceive socket ≠ .finished := by
  unfold handshaking
  rw [Finset.mem_filter, Finset.mem_range]

theorem ReceiveLoopPc.headerBytes_abort
    (pc : ReceiveLoopPc)
    (target : SocketId) :
    (pc.abort target).headerBytes = pc.headerBytes := by
  cases pc with
  | readHeader socket op =>
      simp only [ReceiveLoopPc.abort]
      split
      · exact op.fail_got _
      · rfl
  | readPayload socket op =>
      simp only [ReceiveLoopPc.abort]
      split
      · rfl
      · rfl
  | waitSelected woken => rfl
  | writeTun => rfl
  | ended => rfl

theorem ReceiveLoopPc.turnsAhead_abort
    (pc : ReceiveLoopPc)
    (target : SocketId) :
    (pc.abort target).turnsAhead = pc.turnsAhead := by
  cases pc with
  | readHeader socket op =>
      simp only [ReceiveLoopPc.abort]
      split
      · exact congrArg (3 * ·) (op.fail_got _)
      · rfl
  | readPayload socket op =>
      simp only [ReceiveLoopPc.abort]
      split
      · rfl
      · rfl
  | waitSelected woken => rfl
  | writeTun => rfl
  | ended => rfl

theorem handshaking_abort (target : SocketId) :
    (self.abort target).handshaking = self.handshaking := by
  refine Finset.filter_congr fun socket _ => not_congr ?_
  rcases self.abort_tryReceive target socket with same | aborted
  · rw [same]
  · rw [aborted, TryReceivePc.abort_eq_finished]

theorem accounts_abort (target : SocketId) :
    (self.abort target).accounts = self.accounts := by
  simp only [accounts, handshaking_abort]
  simp only [abort, ReceiveLoopPc.headerBytes_abort,
    ReceiveLoopPc.turnsAhead_abort]

theorem accounts_cancel (server : TcpServer) (target : SocketId) :
    (server.cancel target).accounts = server.accounts :=
  server.accounts_abort target

theorem accounts_drop (target : Option SocketId) :
    (self.drop target).accounts = self.accounts := by
  cases target with
  | none => rfl
  | some target => exact self.accounts_abort target

/-- A handshake that goes on in another state stays in the same account. -/
theorem handshaking_setTryReceive
    {target : SocketId}
    {pc : TryReceivePc}
    (active : self.tryReceive target ≠ .finished)
    (goesOn : pc ≠ .finished) :
    (setTryReceive target pc self).handshaking = self.handshaking := by
  refine Finset.filter_congr fun socket _ => ?_
  by_cases same : socket = target
  · subst same
    simp [setTryReceive, active, goesOn]
  · simp [setTryReceive, same]

theorem handshaking_finish
    {target : SocketId}
    (isAccepted : target < self.accepted)
    (active : self.tryReceive target ≠ .finished) :
    (setTryReceive target .finished self).handshaking.card + 1 =
      self.handshaking.card := by
  have member : target ∈ self.handshaking :=
    mem_handshaking.mpr ⟨isAccepted, active⟩
  have erased :
      (setTryReceive target .finished self).handshaking =
        self.handshaking.erase target := by
    ext socket
    rw [Finset.mem_erase, mem_handshaking, mem_handshaking]
    by_cases same : socket = target
    · subst same
      simp [setTryReceive]
    · simp [setTryReceive, same]
  rw [erased]
  exact Finset.card_erase_add_one member

theorem handshaking_accept :
    self.resumeAccept.handshaking.card = self.handshaking.card + 1 := by
  have fresh : self.accepted ∉ self.handshaking := by
    simp [mem_handshaking]
  have grown :
      self.resumeAccept.handshaking =
        insert self.accepted self.handshaking := by
    ext socket
    rw [Finset.mem_insert, mem_handshaking, mem_handshaking]
    simp only [TcpServer.resumeAccept]
    by_cases same : socket = self.accepted
    · subst same
      simp
    · rw [Function.update_of_ne same, or_iff_right same]
      exact and_congr_left'
        (Nat.lt_succ_iff_lt_or_eq.trans (or_iff_left same))
  rw [grown, Finset.card_insert_of_notMem fresh]

/--
The receive loop has crashed, or rests with something put by: nothing of the
header in a new round, and a turn less than `budget`.
-/
def Rests (budget : Nat) (self next : TcpServer) : Prop :=
  next.fault ≠ none ∧ next.accounts = self.accounts ∨
    ∃ headerBytes turnsAhead,
      next.accounts =
          { self.accounts with
            headerBytes := headerBytes
            turnsAhead := turnsAhead } ∧
        headerBytes ≤ Size ∧
        turnsAhead + Size ≤ budget ∧
        (next.receiveLoop.beginsRound = true → headerBytes = 0)

theorem Rests.rebase
    {budget : Nat}
    {before : TcpServer}
    (same : self.accounts = before.accounts)
    (rests : Rests budget self next) :
    Rests budget before next := by
  unfold Rests at rests ⊢
  rwa [← same]

theorem Rests.more
    {budget more : Nat}
    (rests : Rests budget self next)
    (le : budget ≤ more) :
    Rests more self next := by
  rcases rests with crashed |
    ⟨headerBytes, turnsAhead, same, bytes, turns, fresh⟩
  · exact Or.inl crashed
  · exact Or.inr
      ⟨headerBytes, turnsAhead, same, bytes, turns.trans le, fresh⟩

theorem startRead_got
    (socket : SocketId)
    (offset want : Nat) :
    (self.startRead socket offset want).got = 0 := by
  unfold startRead
  split
  · rfl
  · rfl

theorem accounts_receiveFrom (server : TcpServer) :
    server.receiveFrom.fault ≠ none ∧
        server.receiveFrom.accounts = server.accounts ∨
      server.receiveFrom.accounts = server.accounts.spent := by
  unfold receiveFrom
  split
  · split
    · exact Or.inl ⟨nofun, rfl⟩
    · refine Or.inr ?_
      simp only [accounts, Accounts.spent, ReceiveLoopPc.headerBytes,
        ReceiveLoopPc.turnsAhead, startRead_got]
      rfl
  · exact Or.inr rfl

theorem rests_receiveFrom : Rests Size self self.receiveFrom := by
  rcases self.accounts_receiveFrom with crashed | spent
  · exact Or.inl crashed
  · exact Or.inr
      ⟨0, 0, spent, Nat.zero_le _, Nat.le_of_eq (Nat.zero_add _),
        fun _ => rfl⟩

theorem rests_endReceiveLoop : Rests Size self self.endReceiveLoop :=
  Or.inr
    ⟨0, 0, rfl, Nat.zero_le _, Nat.le_of_eq (Nat.zero_add _), nofun⟩

theorem rests_returnFrom
    (bytes_read : Int)
    (error : Option ErrorCode) :
    Rests (2 * Size) self (self.returnFrom bytes_read error) := by
  have more : Size ≤ 2 * Size := by decide
  unfold returnFrom
  simp only
  split
  · exact Rests.more (Rests.rebase rfl rests_endReceiveLoop) more
  · split
    · exact Rests.more (Rests.rebase rfl rests_endReceiveLoop) more
    · split
      · exact Rests.more (Rests.rebase rfl rests_receiveFrom) more
      · exact Or.inr ⟨Size, Size, rfl, Nat.le_refl _, by decide, nofun⟩

/-- A header without an error, which has some bytes. -/
theorem rests_resumeHeader
    (reading : SocketId)
    {bytes_read : Nat}
    (something : bytes_read ≠ 0) :
    Rests (3 * Size) self
      (self.resumeHeader aead reading bytes_read none) := by
  have more : Size ≤ 3 * Size := by decide
  unfold resumeHeader
  rw [if_neg (by simp), if_neg something]
  simp only
  split
  · exact Rests.more (Rests.rebase rfl rests_receiveFrom) more
  · split
    · exact Or.inl ⟨nofun, rfl⟩
    · exact Or.inr
        ⟨Size, 2 * Size, rfl, Nat.le_refl _, by decide, nofun⟩

theorem rests_resumePayload
    (reading : SocketId)
    (bytes_read : Nat)
    (error : Option ErrorCode) :
    Rests (2 * Size) self
      (self.resumePayload aead reading bytes_read error) := by
  have more : Size ≤ 2 * Size := by decide
  let Before (state : TcpServer) : Prop := state.accounts = self.accounts
  have recorded : Before (self.record (.readFailed reading)) := rfl
  refine resumePayload_rule recorded rfl ?outside (fun _ _ same => same)
    ?again ?returned bytes_read
  case outside =>
    intro state same
    exact Or.inl ⟨nofun, same⟩
  case again =>
    intro state same
    exact Rests.more (Rests.rebase same rests_receiveFrom) more
  case returned =>
    intro state value same
    exact Rests.rebase same (rests_returnFrom _ _)

/-! ## Every step is paid for -/

/-- The event brings in its bytes, three turns for each header of them. -/
structure Paid
    (server : TcpServer)
    (event : TcpServerEvent)
    (next : TcpServer) : Prop where
  rounds :
    Size * server.round event next + next.accounts.forRounds ≤
      server.accounts.forRounds + event.received
  turns :
    Size * server.turn event next + next.accounts.forTurns ≤
      server.accounts.forTurns + 3 * event.received

/-- Another event than a completion for the receive loop. -/
theorem paid_elsewhere
    {event : TcpServerEvent}
    (elsewhere : event.resumesReceiveLoop = false)
    (rounds :
      next.accounts.forRounds ≤ self.accounts.forRounds + event.received)
    (turns :
      next.accounts.forTurns ≤
        self.accounts.forTurns + 3 * event.received) :
    Paid self event next where
  rounds := by
    have none : self.round event next = 0 := by
      simp [round, elsewhere]
    rw [none]
    simpa using rounds
  turns := by
    have none : self.turn event next = 0 := by
      simp [turn, elsewhere]
    rw [none]
    simpa using turns

theorem paid_unmoved
    {event : TcpServerEvent}
    (elsewhere : event.resumesReceiveLoop = false)
    (same : next.accounts = self.accounts) :
    Paid self event next := by
  apply paid_elsewhere elsewhere
  · rw [same]
    omega
  · rw [same]
    omega

theorem round_le_turn (event : TcpServerEvent) (next : TcpServer) :
    self.round event next ≤ self.turn event next := by
  unfold round turn
  split
  · rename_i begins
    have goesOn : next.receiveLoop ≠ .ended := by
      intro ended
      have begins := begins.2.2.2
      rw [ended] at begins
      cases begins
    rw [if_pos ⟨begins.1, begins.2.1, goesOn⟩]
  · exact Nat.zero_le _

theorem turn_le_one (event : TcpServerEvent) (next : TcpServer) :
    self.turn event next ≤ 1 := by
  unfold turn
  split
  · exact Nat.le_refl 1
  · exact Nat.zero_le 1

theorem paid_ended
    {event : TcpServerEvent}
    (ended : next.receiveLoop = .ended)
    (spent : next.accounts = self.accounts.spent) :
    Paid self event next := by
  have rounds := self.round_le_turn event next
  have stops : self.turn event next = 0 := by
    simp [turn, ended]
  have still : self.round event next = 0 := by omega
  constructor
  · rw [still]
    simp only [spent, Accounts.forRounds, Accounts.spent]
    omega
  · rw [stops]
    simp only [spent, Accounts.forTurns, Accounts.spent]
    omega

/-- A connection is let go of, and nothing is done for it. -/
theorem paid_less
    {event : TcpServerEvent}
    {held : Nat}
    (elsewhere : event.resumesReceiveLoop = false)
    (less : held ≤ self.accounts.held)
    (same : next.accounts = { self.accounts with held := held }) :
    Paid self event next := by
  apply paid_elsewhere elsewhere
  · simp only [same, Accounts.forRounds, Size]
    omega
  · simp only [same, Accounts.forTurns, Size]
    omega

/-- The header of the round has been read. -/
theorem Rests.paid
    {budget : Nat}
    {event : TcpServerEvent}
    (rests : Rests budget self next)
    (bytes : self.receiveLoop.headerBytes = Size)
    (turns : self.receiveLoop.turnsAhead = budget) :
    Paid self event next := by
  have bytes : self.accounts.headerBytes = Size := bytes
  have turns : self.accounts.turnsAhead = budget := turns
  have once := self.turn_le_one event next
  have rounds := self.round_le_turn event next
  rcases rests with ⟨faulted, same⟩ |
    ⟨headerBytes, turnsAhead, same, inside, ahead, fresh⟩
  · have crashed : self.turn event next = 0 := by
      simp [turn, faulted]
    have still : self.round event next = 0 := by omega
    constructor
    · rw [same, still]
      omega
    · rw [same, crashed]
      omega
  · constructor
    · have paid : Size * self.round event next + headerBytes ≤ Size := by
        unfold round
        split
        · rename_i begins
          rw [fresh begins.2.2.2]
          decide
        · omega
      simp only [same, Accounts.forRounds, bytes]
      omega
    · have paid : Size * self.turn event next + turnsAhead ≤ budget := by
        have atMost := Nat.mul_le_mul_left Size once
        omega
      simp only [same, Accounts.forTurns, turns]
      omega

/-- The wait was cancelled when a connection was selected. -/
theorem paid_wake
    (waiting : self.receiveLoop = .waitSelected true) :
    Paid self .resume self.receiveFrom := by
  have ahead : self.accounts.turnsAhead = Size :=
    congrArg ReceiveLoopPc.turnsAhead waiting
  have sameRound : self.round .resume self.receiveFrom = 0 := by
    simp [round, waiting, ReceiveLoopPc.waits]
  have once := self.turn_le_one .resume self.receiveFrom
  rcases self.accounts_receiveFrom with ⟨faulted, same⟩ | spent
  · have crashed : self.turn .resume self.receiveFrom = 0 := by
      simp [turn, faulted]
    constructor
    · rw [same, sameRound]
      omega
    · rw [same, crashed]
      omega
  · constructor
    · rw [spent, sameRound]
      simp only [Accounts.forRounds, Accounts.spent]
      omega
    · have paid := Nat.mul_le_mul_left Size once
      simp only [spent, Accounts.forTurns, Accounts.spent, ahead]
      omega

/-- The receive loop has crashed, or goes on with one connection less. -/
def Loses (self next : TcpServer) : Prop :=
  ∃ held,
    (next.fault ≠ none ∧ held ≤ self.accounts.held ∧
        next.accounts = { self.accounts with held := held }) ∨
      (held + 1 = self.accounts.held ∧
        next.accounts = { self.accounts.spent with held := held })

theorem loses_receiveFrom
    {connection : TCPConnection}
    (less :
      connection.conn_socket.toList.length +
          connection.replace_socket.toList.length + 1 =
        self.accounts.held) :
    self.Loses (receiveFrom { self with connection := connection }) := by
  refine ⟨connection.conn_socket.toList.length +
    connection.replace_socket.toList.length, ?_⟩
  rcases accounts_receiveFrom { self with connection := connection } with
    ⟨faulted, same⟩ | spent
  · exact Or.inl ⟨faulted, by omega, same⟩
  · exact Or.inr ⟨less, spent⟩

/-- A connection is closed, and another one may take its place. -/
theorem loses_loseConnection (self : TcpServer) :
    self.Loses self.loseConnection := by
  have closed (socket : SocketId) :
      (self.closeSocket socket).accounts = self.accounts :=
    self.accounts_abort socket
  have held
      (socket : SocketId)
      (current : self.connection.conn_socket = some socket) :
      (self.closeSocket socket).accounts.held =
        self.connection.replace_socket.toList.length + 1 := by
    rw [closed]
    simp only [accounts, current, Option.toList_some,
      List.length_singleton, Nat.add_comm]
  have lost :
      ∀ {socket next},
        (self.closeSocket socket).Loses next → self.Loses next := by
    intro socket next loses
    unfold Loses at loses ⊢
    rwa [← closed socket]
  apply loseConnection_rule
  case null =>
    intro _
    exact ⟨_, Or.inl ⟨nofun, Nat.le_refl _, rfl⟩⟩
  case alone =>
    intro socket current noReplacement
    refine lost (loses_receiveFrom ?_)
    rw [held socket current]
    simp only [noReplacement]
    rfl
  case replaced =>
    intro socket replacement current waiting
    refine lost (loses_receiveFrom ?_)
    rw [held socket current, waiting]
    rfl

/-- The header of the round cannot be read. -/
theorem Loses.paid
    {event : TcpServerEvent}
    (loses : self.Loses next) :
    Paid self event next := by
  have once := self.turn_le_one event next
  have rounds := self.round_le_turn event next
  obtain ⟨held, ⟨faulted, less, same⟩ | ⟨less, spent⟩⟩ := loses
  · have crashed : self.turn event next = 0 := by
      simp [turn, faulted]
    have still : self.round event next = 0 := by omega
    constructor
    · rw [still]
      simp only [same, Accounts.forRounds, Size]
      omega
    · rw [crashed]
      simp only [same, Accounts.forTurns, Size]
      omega
  · constructor
    · simp only [spent, Accounts.forRounds, Accounts.spent, Size]
      omega
    · simp only [spent, Accounts.forTurns, Accounts.spent, Size]
      omega

theorem ReceiveLoopPc.headerBytes_wake (pc : ReceiveLoopPc) :
    pc.wake.headerBytes = pc.headerBytes := by
  cases pc <;> rfl

theorem ReceiveLoopPc.turnsAhead_wake_le (pc : ReceiveLoopPc) :
    pc.wake.turnsAhead ≤ pc.turnsAhead + Size := by
  cases pc with
  | waitSelected woken => exact Nat.le_add_left _ _
  | _ => exact Nat.le_add_right _ _

theorem accounts_setTryReceive
    {target : SocketId}
    {pc : TryReceivePc}
    (active : self.tryReceive target ≠ .finished)
    (goesOn : pc ≠ .finished) :
    (setTryReceive target pc self).accounts = self.accounts := by
  simp only [accounts, handshaking_setTryReceive active goesOn]
  rfl

/-- A handshake has finished; with it goes what it was to be given. -/
structure Finishes (server next : TcpServer) : Prop where
  accepted : next.accounts.accepted = server.accounts.accepted
  handshakes :
    next.accounts.handshakes + 1 = server.accounts.handshakes
  held : next.accounts.held ≤ server.accounts.held + 1
  headerBytes : next.accounts.headerBytes = server.accounts.headerBytes
  turnsAhead :
    next.accounts.turnsAhead ≤ server.accounts.turnsAhead + Size

theorem finishes_setTryReceive
    {target : SocketId}
    (isAccepted : target < self.accepted)
    (active : self.tryReceive target ≠ .finished) :
    Finishes self (setTryReceive target .finished self) where
  accepted := rfl
  handshakes := handshaking_finish isAccepted active
  held := Nat.le_succ _
  headerBytes := rfl
  turnsAhead := Nat.le_add_right _ _

theorem Finishes.of_accounts
    {last : TcpServer}
    (finishes : Finishes self next)
    (same : last.accounts = next.accounts) :
    Finishes self last where
  accepted := by rw [same, finishes.accepted]
  handshakes := by rw [same, finishes.handshakes]
  held := by rw [same]; exact finishes.held
  headerBytes := by rw [same, finishes.headerBytes]
  turnsAhead := by rw [same]; exact finishes.turnsAhead

theorem finishes_choose
    (self : TcpServer)
    {socket : SocketId}
    (isAccepted : socket < self.accepted)
    (active : self.tryReceive socket ≠ .finished)
    (authenticated : Bool) :
    Finishes self (self.choose socket authenticated) := by
  have finished := handshaking_finish isAccepted active
  have queued :
      Finishes self (self.queueReplacement socket authenticated) := by
    refine Finishes.of_accounts ?_ (accounts_drop _)
    exact
      { accepted := rfl
        handshakes := finished
        held := Nat.add_le_add_right (Nat.le_add_right _ _) 1
        headerBytes := rfl
        turnsAhead := Nat.le_add_right _ _ }
  apply choose_rule
  case first =>
    intro _
    refine Finishes.of_accounts ?_ (accounts_drop _)
    exact
      { accepted := rfl
        handshakes := finished
        held := by
          simp only [accounts, record, Option.toList_some,
            List.length_singleton]
          omega
        headerBytes := ReceiveLoopPc.headerBytes_wake _
        turnsAhead := ReceiveLoopPc.turnsAhead_wake_le _ }
  case null =>
    intro _ _
    exact queued.of_accounts rfl
  case cancelled =>
    intro current _ _ _
    exact queued.of_accounts (accounts_cancel _ _)
  case thrown =>
    intro current _ _ _
    exact queued.of_accounts rfl

theorem Finishes.paid
    {event : TcpServerEvent}
    (finishes : Finishes self next)
    (elsewhere : event.resumesReceiveLoop = false) :
    Paid self event next := by
  obtain ⟨accepted, handshakes, held, headerBytes, turnsAhead⟩ :=
    finishes
  apply paid_elsewhere elsewhere
  · simp only [Accounts.forRounds, accepted, headerBytes, Size]
    omega
  · simp only [Accounts.forTurns, accepted, Size] at turnsAhead ⊢
    omega

theorem paid_resumeTryHeader
    {socket : SocketId}
    (isAccepted : socket < self.accepted)
    (active : self.tryReceive socket ≠ .finished)
    (bytes_read : Nat) :
    Paid self (.resumeTry socket)
      (self.resumeTryHeader aead socket bytes_read) := by
  have finishes := finishes_setTryReceive isAccepted active
  apply resumeTryHeader_rule
  case nothing =>
    exact Finishes.paid (finishes.of_accounts rfl) rfl
  case empty =>
    intro header
    exact Finishes.paid (finishes.of_accounts rfl) rfl
  case announced =>
    intro header payload_len
    exact paid_unmoved rfl (accounts_setTryReceive active nofun)

theorem paid_resumeTryPayload
    {socket : SocketId}
    (isAccepted : socket < self.accepted)
    (active : self.tryReceive socket ≠ .finished)
    (bytes_read : Nat)
    (error : Option ErrorCode) :
    Paid self (.resumeTry socket)
      (self.resumeTryPayload aead socket bytes_read error) := by
  apply resumeTryPayload_rule
  case thrown => exact paid_unmoved rfl rfl
  case nothing =>
    intro _ _
    have finishes := finishes_setTryReceive isAccepted active
    exact Finishes.paid (finishes.of_accounts rfl) rfl
  case outside =>
    intro _
    exact paid_unmoved rfl rfl
  case chosen =>
    intro protocol header accepted _ _ _ _ _
    have finishes :=
      finishes_choose (self.openPayload protocol header)
        isAccepted active accepted
    exact Finishes.paid { finishes with } rfl
  case unreached =>
    intro protocol header accepted _ _ _
    exact paid_unmoved rfl rfl

theorem accounts_sendTo
    (packet : List UInt8)
    (draw : SendDraw) :
    (self.sendTo aead packet draw).accounts = self.accounts := by
  obtain ⟨_, _, _, changed, _⟩ := sendTo_changes aead self packet draw
  rw [changed]
  rfl

/-- `SendTo` leaves the connection to the receive loop. -/
theorem accounts_resumeSendTo
    (writing : SocketId)
    (error : Option ErrorCode) :
    (self.resumeSendTo writing error).accounts = self.accounts := by
  let Same (next : TcpServer) : Prop := next.accounts = self.accounts
  have same : Same (self.resumeSendTo writing error) := by
    apply resumeSendTo_rule
    case returned => rfl
    case stopped =>
      intro _ _
      rfl
    case null =>
      intro _ _ _
      rfl
    case deselected =>
      intro socket _ _ _
      exact
        accounts_cancel
          (TcpServer.record { self with sendLoop := .readTun }
            (.writeFailed writing))
          socket
  exact same

theorem accounts_closeSocket (server : TcpServer) (target : SocketId) :
    (server.closeSocket target).accounts = server.accounts :=
  server.accounts_abort target

/-- `Close` takes the current connection without a round. -/
theorem paid_close : Paid self .close self.close := by
  have less :
      0 + self.connection.replace_socket.toList.length ≤
        self.accounts.held :=
    Nat.add_le_add_right (Nat.zero_le _) _
  apply close_rule
  case refused => exact paid_unmoved rfl rfl
  case null =>
    intro _ _
    exact paid_unmoved rfl rfl
  case closed =>
    intro socket _ _
    refine paid_less rfl less ?_
    exact
      congrArg
        (fun accounts : Accounts =>
          { accounts with
            held := 0 + self.connection.replace_socket.toList.length })
        (accounts_closeSocket self.refuseConnections socket)

theorem paid_resumeAccept :
    Paid self .resumeAccept self.resumeAccept := by
  have handshakes :
      self.resumeAccept.accounts.handshakes =
        self.accounts.handshakes + 1 :=
    handshaking_accept
  have same :
      self.resumeAccept.accounts =
        { self.accounts with
          accepted := self.accounts.accepted + 1
          handshakes := self.accounts.handshakes + 1 } := by
    rw [← handshakes]
    rfl
  apply paid_elsewhere rfl
  · simp only [same, Accounts.forRounds, Size]
    omega
  · simp only [same, Accounts.forTurns, Size]
    omega

theorem paid_arriveHeader
    {socket : SocketId}
    {op : ReadOp}
    (reading : self.receiveLoop = .readHeader socket op)
    (piece : List UInt8)
    (buffer : PacketBuffer) :
    Paid self (.arrive piece)
      (setReceiveLoop (.readHeader socket (op.receive piece))
        (self.setBuffer buffer)) := by
  have bytes : self.accounts.headerBytes = op.got :=
    congrArg ReceiveLoopPc.headerBytes reading
  have turns : self.accounts.turnsAhead = 3 * op.got :=
    congrArg ReceiveLoopPc.turnsAhead reading
  have same :
      (setReceiveLoop (.readHeader socket (op.receive piece))
          (self.setBuffer buffer)).accounts =
        { self.accounts with
          headerBytes := op.got + piece.length
          turnsAhead := 3 * (op.got + piece.length) } :=
    rfl
  apply paid_elsewhere rfl
  · simp only [same, Accounts.forRounds, bytes,
      TcpServerEvent.received]
    omega
  · simp only [same, Accounts.forTurns, turns,
      TcpServerEvent.received]
    omega

theorem accounts_setReceiveLoop
    {pc : ReceiveLoopPc}
    (bytes : pc.headerBytes = self.receiveLoop.headerBytes)
    (turns : pc.turnsAhead = self.receiveLoop.turnsAhead) :
    (setReceiveLoop pc self).accounts = self.accounts := by
  simp only [accounts, setReceiveLoop, bytes, turns]
  rfl

/-- What a step does to the accounts, whatever the coroutine. -/
theorem Paid.step
    {event : TcpServerEvent}
    (orderly : self.Orderly)
    (performed : TcpServer.step aead self event = some next) :
    Paid self event next := by
  obtain ⟨_, transition⟩ := step_transition performed
  cases transition with
  | incoming _ => exact paid_unmoved rfl rfl
  | resumeAccept _ => exact paid_resumeAccept
  | disconnect _ => exact paid_unmoved rfl rfl
  | arriveTryHeader reading _ _ =>
      exact paid_unmoved rfl
        (accounts_setTryReceive (by simp [setBuffer, reading])
          (fun finished => by cases finished))
  | arriveTryPayload reading _ _ =>
      exact paid_unmoved rfl
        (accounts_setTryReceive (by simp [setBuffer, reading])
          (fun finished => by cases finished))
  | arriveTryOutside _ _ _ => exact paid_unmoved rfl rfl
  | failTryHeader _ reading =>
      exact paid_unmoved rfl
        (accounts_setTryReceive (by simp [reading])
          (fun finished => by cases finished))
  | failTryPayload _ reading =>
      exact paid_unmoved rfl
        (accounts_setTryReceive (by simp [reading])
          (fun finished => by cases finished))
  | @resumeTryHeader socket op _ reading _ =>
      have active : self.tryReceive socket ≠ .finished := by
        simp [reading]
      exact paid_resumeTryHeader
        (orderly.started socket (by simp [reading])) active _
  | @resumeTryPayload socket op _ reading _ =>
      have active : self.tryReceive socket ≠ .finished := by
        simp [reading]
      exact paid_resumeTryPayload
        (orderly.started socket (by simp [reading])) active _ _
  | wake waiting => exact paid_wake waiting
  | @arriveHeader socket op piece reading _ _ =>
      exact paid_arriveHeader reading piece _
  | @arrivePayload socket op piece reading _ _ =>
      refine paid_unmoved rfl (accounts_setReceiveLoop ?_ ?_)
      · change _ = self.receiveLoop.headerBytes
        rw [reading]
        rfl
      · change _ = self.receiveLoop.turnsAhead
        rw [reading]
        rfl
  | arriveOutside _ _ _ => exact paid_unmoved rfl rfl
  | @failHeader socket op error reading =>
      refine paid_unmoved rfl (accounts_setReceiveLoop ?_ ?_)
      · rw [reading]
        exact op.fail_got error
      · rw [reading]
        exact congrArg (3 * ·) (op.fail_got error)
  | failPayload _ reading =>
      refine paid_unmoved rfl (accounts_setReceiveLoop ?_ ?_)
      · rw [reading]
        rfl
      · rw [reading]
        rfl
  | @resumeHeader socket op error reading completed =>
      have header := orderly.reading.header socket op reading
      cases error with
      | none =>
          have full : op.got = Size :=
            (header.full completed).trans header.want
          refine Rests.paid (rests_resumeHeader socket ?_) ?_ ?_
          · rw [full]
            decide
          · rw [reading]
            exact full
          · rw [reading]
            exact congrArg (3 * ·) full
      | some error =>
          unfold TcpServer.resumeHeader
          rw [if_pos (by simp)]
          simp only
          split
          · exact paid_ended rfl rfl
          · have loses :=
              (self.record (.readFailed socket)).loses_loseConnection
            exact Loses.paid loses
  | @resumePayload socket op error reading completed =>
      refine Rests.paid (rests_resumePayload socket op.got error) ?_ ?_
      · rw [reading]
        rfl
      · rw [reading]
        rfl
  | tunWritten failed writing =>
      have rests :
          Rests Size self
            (if failed then self.endReceiveLoop else self.receiveFrom) := by
        split
        · exact rests_endReceiveLoop
        · exact rests_receiveFrom
      refine rests.paid ?_ ?_
      · rw [writing]
        rfl
      · rw [writing]
        rfl
  | sendTo _ _ _ => exact paid_unmoved rfl (accounts_sendTo _ _)
  | writeSome _ _ _ => exact paid_unmoved rfl rfl
  | writeError _ _ => exact paid_unmoved rfl rfl
  | resumeSendTo _ => exact paid_unmoved rfl (accounts_resumeSendTo _ _)
  | close => exact paid_close

theorem paysRounds :
    StepSystem.Pays (TcpServer.step aead) Orderly round Size
      TcpServerEvent.received fun server => server.accounts.forRounds where
  preserved := Orderly.step
  pays := fun orderly performed => (Paid.step orderly performed).rounds

theorem paysTurns :
    StepSystem.Pays (TcpServer.step aead) Orderly turn Size
      (fun event => 3 * event.received)
      fun server => server.accounts.forTurns where
  preserved := Orderly.step
  pays := fun orderly performed => by
    have turns := (Paid.step orderly performed).turns
    push_cast
    exact turns

/--
In every run: after the first round there is at most one for each connection
and for each header's worth of bytes, and the receive loop goes on after at
most two completions for each connection and three for each header's worth.
-/
theorem rounds_le
    (aead : Aead 16)
    (conn_key : List UInt8)
    (addresses : Server)
    (events : List TcpServerEvent)
    {final : TcpServer}
    (reached :
      StepSystem.run (step aead) (create conn_key addresses) events =
        some final) :
    let start := create conn_key addresses
    let bytes := (events.map TcpServerEvent.received).sum
    StepSystem.totalCost (step aead) round start events ≤
        final.accepted + bytes / Size ∧
      StepSystem.totalCost (step aead) turn start events ≤
        2 * final.accepted + 3 * bytes / Size := by
  have orderly := Orderly.create conn_key addresses
  have rounds := paysRounds.totalCost_le orderly reached
  have turns := paysTurns.totalCost_le orderly reached
  have start : (create conn_key addresses).accounts = ⟨0, 0, 0, 0, 0⟩ :=
    rfl
  have accepted : final.accounts.accepted = final.accepted := rfl
  rw [List.sum_map_mul_left] at turns
  simp only [start, Accounts.forRounds, Accounts.forTurns, accepted,
    Size] at rounds turns ⊢
  constructor
  · omega
  · omega

end

/-- The connection ends inside a payload, and the read behind it fails too. -/
def brokenPayload : List TcpServerEvent :=
  connects 0 1 ++
    [.resume,
      .arrive ((clientFrame 2).take Size),
      .resume,
      .arrive (List.replicate 3 0),
      .fail .eof,
      .resume,
      .fail .eof,
      .resume]

theorem rounds_le_brokenPayload :
    ∃ final,
      StepSystem.run (step Aead.checksumAead) exampleStart
          brokenPayload =
        some final ∧
      let bytes := (brokenPayload.map TcpServerEvent.received).sum
      StepSystem.totalCost (step Aead.checksumAead) round exampleStart
            brokenPayload ≤
          final.accepted + bytes / Size ∧
        StepSystem.totalCost (step Aead.checksumAead) turn exampleStart
            brokenPayload ≤
          2 * final.accepted + 3 * bytes / Size := by
  have performed :
      (StepSystem.run (step Aead.checksumAead) exampleStart
        brokenPayload).isSome := by
    decide +kernel
  obtain ⟨final, reached⟩ := Option.isSome_iff_exists.mp performed
  exact ⟨final, reached,
    rounds_le Aead.checksumAead [49] Server.exampleServer brokenPayload
      reached⟩

end TcpServer

end Dsvpn
