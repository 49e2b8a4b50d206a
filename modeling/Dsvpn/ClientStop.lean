import Dsvpn.DataPath

namespace Dsvpn

/-!
# Stopping the client

`Client::Reconnect` closes the old connection, waits for the network, connects
a new one, starts the two loops and changes the default route.  `Client::Stop`
is called from a signal handler, between any two statements of it.
-/

/-- The statements of `Reconnect`; `idle` when no call is in progress. -/
inductive ReconnectPc where
  | idle
  | unsetRoute
  | testConnection
  | closeConnection
  | resetConnection
  | checkNetwork
  | networkMissing
  | sleepNetwork
  | makeConnection
  | connect
  | connectFailed
  | sleepConnect
  | spawnTun
  | spawnConnection
  | sleepReady
  | setRoute
  deriving Repr, DecidableEq

/-- What the client does to the routes; `stop` is the end of `Stop`. -/
inductive RouteAction where
  | unsetRoute
  | setRoute
  | stop
  deriving Repr, DecidableEq

/--
What `Run`, `Reconnect` and `Stop` work on.  A connection is told by the
protocol it was made for; the context is there as long as the client is.
-/
structure ClientControl where
  conn_protocol : ConnProtocolType
  connection : Option ConnProtocolType
  stopped : Bool
  pc : ReconnectPc
  actions : List RouteAction
  fault : Option Fault
  deriving Repr, DecidableEq

/--
`reconnect` is a call by `Run` or by a TUN loop; the two results are those of
`NetworkAvaliable` and of `Connect`.
-/
inductive ControlEvent where
  | reconnect
  | next
  | networkAvaliable (result : Bool)
  | connected (result : Bool)
  | stop
  deriving Repr, DecidableEq

namespace ClientControl

/-- A client as `main` makes it. -/
def start (detail : ContextDetail) : ClientControl where
  conn_protocol := detail.conn_protocol
  connection := none
  stopped := false
  pc := .idle
  actions := []
  fault := none

def makeConnection (self : ClientControl) : Option ConnProtocolType :=
  match self.conn_protocol with
  | .UDP => some .UDP
  | .TCP => some .TCP
  | .UTCP => self.connection

/-- A call through the pointer, and the statement behind it. -/
def useConnection
    (self : ClientControl)
    (pc : ReconnectPc) : ClientControl :=
  match self.connection with
  | none => { self with fault := some .nullDereference }
  | some _ => { self with pc := pc }

/-- `Reconnect` gets the mutex, or returns without doing anything. -/
def Reconnect (self : ClientControl) : ClientControl :=
  if self.pc = .idle then
    { self with pc := .unsetRoute }
  else
    self

/-- The next statement, where it does not wait for a result. -/
def next (self : ClientControl) : Option ClientControl :=
  match self.pc with
  | .idle =>
      none
  | .unsetRoute =>
      some
        { self with
          actions := self.actions ++ [.unsetRoute]
          pc := .testConnection }
  | .testConnection =>
      some
        { self with
          pc :=
            if self.connection.isSome then
              .closeConnection
            else
              .checkNetwork }
  | .closeConnection =>
      some (self.useConnection .resetConnection)
  | .resetConnection =>
      some { self with connection := none, pc := .checkNetwork }
  | .checkNetwork =>
      none
  | .networkMissing =>
      some { self with pc := if self.stopped then .idle else .sleepNetwork }
  | .sleepNetwork =>
      some { self with pc := .checkNetwork }
  | .makeConnection =>
      some { self with connection := self.makeConnection, pc := .connect }
  | .connect =>
      none
  | .connectFailed =>
      some { self with pc := if self.stopped then .idle else .sleepConnect }
  | .sleepConnect =>
      some { self with pc := .connect }
  | .spawnTun =>
      some { self with pc := .spawnConnection }
  | .spawnConnection =>
      some (self.useConnection .sleepReady)
  | .sleepReady =>
      some { self with pc := .setRoute }
  | .setRoute =>
      some
        { self with
          actions := self.actions ++ [.setRoute]
          pc := .idle }

/-- The connection is closed if there is one; the pointer is reset. -/
def Stop (self : ClientControl) : ClientControl :=
  { self with
    connection := none
    stopped := true
    actions := self.actions ++ [.unsetRoute, .stop] }

def step
    (self : ClientControl)
    (event : ControlEvent) : Option ClientControl :=
  if self.fault.isSome then
    none
  else
    match event with
    | .reconnect =>
        some self.Reconnect
    | .next =>
        self.next
    | .networkAvaliable result =>
        if self.pc = .checkNetwork then
          some
            { self with
              pc := if result then .makeConnection else .networkMissing }
        else
          none
    | .connected result =>
        if self.pc = .connect then
          some
            (self.useConnection
              (if result then .spawnTun else .connectFailed))
        else
          none
    | .stop =>
        some self.Stop

/--
No null pointer was used, no default route was set after a stop, and the last
thing that was done to the routes, once there was a stop, was to unset it.
-/
structure SafelyStopped (state : ClientControl) : Prop where
  unfaulted : state.fault = none
  setBefore :
    state.actions.Pairwise fun earlier later =>
      earlier = .stop → later ≠ .setRoute
  unsetLast :
    .stop ∈ state.actions →
      (state.actions.filter fun action => action ≠ .stop).getLast? =
        some .unsetRoute

/-- Statements before which `Stop` may come. -/
def mayStop : ReconnectPc → Bool
  | .idle => true
  | .unsetRoute => true
  | .testConnection => true
  | .closeConnection => false
  | .resetConnection => true
  | .checkNetwork => true
  | .networkMissing => true
  | .sleepNetwork => true
  | .makeConnection => true
  | .connect => false
  | .connectFailed => true
  | .sleepConnect => false
  | .spawnTun => false
  | .spawnConnection => false
  | .sleepReady => false
  | .setRoute => false

/--
`Stop` does not come between a test of the pointer or of the flag and what
follows it, and no connection succeeds after it.
-/
def StopsInTime
    (self : ClientControl) : ControlEvent → Prop
  | .stop => mayStop self.pc = true
  | .connected result => result = true → self.stopped = false
  | _ => True

instance (self : ClientControl) (event : ControlEvent) :
    Decidable (self.StopsInTime event) := by
  unfold StopsInTime
  split <;> infer_instance

/-- Statements that lead to a use of the pointer with no test before. -/
def usesConnection : ReconnectPc → Bool
  | .closeConnection => true
  | .connect => true
  | .sleepConnect => true
  | .spawnTun => true
  | .spawnConnection => true
  | _ => false

/-- Statements that lead to `SetClientDefaultRoute`. -/
def setsRoute : ReconnectPc → Bool
  | .spawnTun => true
  | .spawnConnection => true
  | .sleepReady => true
  | .setRoute => true
  | _ => false

/-- A statement before which a stop may come tests again, or uses nothing. -/
theorem mayStop_free
    {pc : ReconnectPc}
    (allowed : mayStop pc = true) :
    usesConnection pc = false ∧ setsRoute pc = false := by
  cases pc <;> first | exact ⟨rfl, rfl⟩ | cases allowed

/-- In a run in which every stop comes in time. -/
structure InTime (state : ClientControl) : Prop where
  supported : state.conn_protocol ≠ .UTCP
  safe : state.SafelyStopped
  marked : .stop ∈ state.actions ↔ state.stopped = true
  connection : usesConnection state.pc = true → state.connection ≠ none
  failed :
    state.pc = .connectFailed →
      state.stopped = false →
      state.connection ≠ none
  running : setsRoute state.pc = true → state.stopped = false

namespace SafelyStopped

variable {self : ClientControl}

/-- Unsetting the route is always safe. -/
theorem unset
    (safe : self.SafelyStopped) :
    ({ self with
        actions :=
          self.actions ++ [.unsetRoute] } : ClientControl).SafelyStopped where
  unfaulted := safe.unfaulted
  setBefore := by
    simp [List.pairwise_append, safe.setBefore]
  unsetLast := by
    simp

/-- So is a stop. -/
theorem stop
    (safe : self.SafelyStopped) :
    self.Stop.SafelyStopped where
  unfaulted := safe.unfaulted
  setBefore := by
    simp [Stop, List.pairwise_append, safe.setBefore]
  unsetLast := by
    simp [Stop]

/-- The route may be set as long as there was no stop. -/
theorem set
    (safe : self.SafelyStopped)
    (running : .stop ∉ self.actions) :
    ({ self with
        actions :=
          self.actions ++ [.setRoute] } : ClientControl).SafelyStopped where
  unfaulted := safe.unfaulted
  setBefore := by
    refine List.pairwise_append.mpr
      ⟨safe.setBefore, List.pairwise_singleton _ _, ?_⟩
    intro earlier member later _ isStop
    exact (running (isStop ▸ member)).elim
  unsetLast := by
    simp [running]

end SafelyStopped

namespace InTime

theorem start
    {detail : ContextDetail}
    (supported : detail.conn_protocol ≠ .UTCP) :
    (start detail).InTime where
  supported := supported
  safe :=
    { unfaulted := rfl
      setBefore := List.Pairwise.nil
      unsetLast := nofun }
  marked := by simp [ClientControl.start]
  connection := nofun
  failed := nofun
  running := nofun

variable {self : ClientControl}

/-- Going on to a statement whose conditions are met. -/
theorem goTo
    (inTime : self.InTime)
    (pc : ReconnectPc)
    (connection : usesConnection pc = true → self.connection ≠ none)
    (failed :
      pc = .connectFailed → self.stopped = false → self.connection ≠ none)
    (running : setsRoute pc = true → self.stopped = false) :
    ({ self with pc := pc } : ClientControl).InTime where
  supported := inTime.supported
  safe := { inTime.safe with }
  marked := inTime.marked
  connection := connection
  failed := failed
  running := running

/-- Going on to a statement that needs nothing. -/
theorem goOn
    (inTime : self.InTime)
    {pc : ReconnectPc}
    (free : usesConnection pc = false)
    (tested : pc ≠ .connectFailed)
    (unset : setsRoute pc = false) :
    ({ self with pc := pc } : ClientControl).InTime :=
  inTime.goTo pc (by simp [free]) (fun same => (tested same).elim)
    (by simp [unset])

/-- A call through the pointer succeeds where the pointer is set. -/
theorem useConnection
    (inTime : self.InTime)
    (set : self.connection ≠ none)
    (pc : ReconnectPc)
    (running : setsRoute pc = true → self.stopped = false) :
    (self.useConnection pc).InTime := by
  unfold ClientControl.useConnection
  split
  · rename_i null
    exact (set null).elim
  · exact inTime.goTo pc (fun _ => set) (fun _ _ => set) running

theorem makeConnection_ne_none
    (inTime : self.InTime) :
    self.makeConnection ≠ none := by
  have supported := inTime.supported
  unfold makeConnection
  split
  · exact nofun
  · exact nofun
  · rename_i unsupported
    exact (supported unsupported).elim

/-- What was done to the routes does not matter to the statements. -/
theorem route
    (inTime : self.InTime)
    {actions : List RouteAction}
    (safe : ({ self with actions := actions } : ClientControl).SafelyStopped)
    (marked : .stop ∈ actions ↔ .stop ∈ self.actions) :
    ({ self with actions := actions } : ClientControl).InTime where
  supported := inTime.supported
  safe := safe
  marked := marked.trans inTime.marked
  connection := inTime.connection
  failed := inTime.failed
  running := inTime.running

/-- The next statement keeps everything in time. -/
theorem next
    {after : ClientControl}
    (inTime : self.InTime)
    (performed : self.next = some after) :
    after.InTime := by
  have connection := inTime.connection
  have running := inTime.running
  unfold ClientControl.next at performed
  split at performed
  case h_1 | h_6 | h_10 => cases performed
  case h_2 =>
    obtain rfl := Option.some.inj performed
    have unset :=
      inTime.route inTime.safe.unset (by simp)
    exact unset.goOn rfl nofun rfl
  case h_3 =>
    obtain rfl := Option.some.inj performed
    split
    · rename_i set
      exact inTime.goTo _
        (fun _ => Option.isSome_iff_ne_none.mp set) nofun nofun
    · exact inTime.goOn rfl nofun rfl
  case h_4 pc =>
    obtain rfl := Option.some.inj performed
    exact inTime.useConnection (connection (by rw [pc]; rfl)) _ nofun
  case h_5 =>
    obtain rfl := Option.some.inj performed
    exact
      { supported := inTime.supported
        safe := { inTime.safe with }
        marked := inTime.marked
        connection := nofun
        failed := nofun
        running := nofun }
  case h_7 =>
    obtain rfl := Option.some.inj performed
    split
    · exact inTime.goOn rfl nofun rfl
    · exact inTime.goOn rfl nofun rfl
  case h_8 =>
    obtain rfl := Option.some.inj performed
    exact inTime.goOn rfl nofun rfl
  case h_9 =>
    obtain rfl := Option.some.inj performed
    exact
      { supported := inTime.supported
        safe := { inTime.safe with }
        marked := inTime.marked
        connection := fun _ => inTime.makeConnection_ne_none
        failed := nofun
        running := nofun }
  case h_11 pc =>
    obtain rfl := Option.some.inj performed
    split
    · exact inTime.goOn rfl nofun rfl
    · rename_i flag
      have set :=
        inTime.failed pc (Bool.eq_false_iff.mpr flag)
      exact inTime.goTo _ (fun _ => set) nofun nofun
  case h_12 pc =>
    obtain rfl := Option.some.inj performed
    have set := connection (by rw [pc]; rfl)
    exact inTime.goTo _ (fun _ => set) nofun nofun
  case h_13 pc =>
    obtain rfl := Option.some.inj performed
    have set := connection (by rw [pc]; rfl)
    exact inTime.goTo _ (fun _ => set) nofun
      (fun _ => running (by rw [pc]; rfl))
  case h_14 pc =>
    obtain rfl := Option.some.inj performed
    exact inTime.useConnection (connection (by rw [pc]; rfl)) _
      (fun _ => running (by rw [pc]; rfl))
  case h_15 pc =>
    obtain rfl := Option.some.inj performed
    exact inTime.goTo _ nofun nofun
      (fun _ => running (by rw [pc]; rfl))
  case h_16 pc =>
    obtain rfl := Option.some.inj performed
    have unstopped : self.stopped = false :=
      running (by rw [pc]; rfl)
    have unmarked : .stop ∉ self.actions := by
      intro member
      rw [inTime.marked.mp member] at unstopped
      cases unstopped
    have set :=
      inTime.route (inTime.safe.set unmarked) (by simp)
    exact set.goOn rfl nofun rfl

/-- A stop before a statement that tests again. -/
theorem stop
    (inTime : self.InTime)
    (allowed : mayStop self.pc = true) :
    self.Stop.InTime where
  supported := inTime.supported
  safe := inTime.safe.stop
  marked := by simp [Stop]
  connection := by
    intro uses
    exact (Bool.eq_false_iff.mp (mayStop_free allowed).1 uses).elim
  failed := nofun
  running := by
    intro sets
    exact (Bool.eq_false_iff.mp (mayStop_free allowed).2 sets).elim

/-- Every step whose condition is met keeps everything in time. -/
theorem step
    {after : ClientControl}
    {event : ControlEvent}
    (inTime : self.InTime)
    (allowed : self.StopsInTime event)
    (performed : self.step event = some after) :
    after.InTime := by
  unfold ClientControl.step at performed
  split at performed
  · cases performed
  · cases event with
    | reconnect =>
        obtain rfl := Option.some.inj performed
        unfold Reconnect
        split
        · exact inTime.goOn rfl nofun rfl
        · exact inTime
    | next => exact inTime.next performed
    | networkAvaliable result =>
        simp only at performed
        split at performed
        · obtain rfl := Option.some.inj performed
          split
          · exact inTime.goOn rfl nofun rfl
          · exact inTime.goOn rfl nofun rfl
        · cases performed
    | connected result =>
        simp only at performed
        split at performed
        · rename_i pc
          obtain rfl := Option.some.inj performed
          refine inTime.useConnection
            (inTime.connection (by rw [pc]; rfl)) _ ?_
          cases result with
          | false => exact nofun
          | true => exact fun _ => allowed rfl
        · cases performed
    | stop =>
        obtain rfl := Option.some.inj performed
        exact inTime.stop allowed

end InTime

/-! ## Stops that come too late -/

/-- States from which every way back to idle goes through a violation. -/
inductive Doomed (state : ClientControl) : Prop where
  | faulted : state.fault ≠ none → Doomed state
  | setBehind :
      ¬ (state.actions.Pairwise fun earlier later =>
        earlier = .stop → later ≠ .setRoute) →
      Doomed state
  | nullPointer :
      usesConnection state.pc = true →
      state.connection = none →
      Doomed state
  | routing :
      setsRoute state.pc = true →
      .stop ∈ state.actions →
      Doomed state

namespace Doomed

variable {self after : ClientControl}

/-- At the end of `Reconnect` the violation has happened. -/
theorem not_safe
    (doomed : self.Doomed)
    (idle : self.pc = .idle) :
    ¬ self.SafelyStopped := by
  intro safe
  cases doomed with
  | faulted fault => exact fault safe.unfaulted
  | setBehind behind => exact behind safe.setBefore
  | nullPointer uses _ =>
      rw [idle] at uses
      cases uses
  | routing sets _ =>
      rw [idle] at sets
      cases sets

/-- A call through a null pointer. -/
theorem useConnection_null
    (null : self.connection = none)
    (pc : ReconnectPc) :
    (self.useConnection pc).Doomed := by
  unfold ClientControl.useConnection
  rw [null]
  exact .faulted nofun

/-- What was set behind a stop stays behind it. -/
theorem setBehind_append
    {actions more : List RouteAction}
    (behind :
      ¬ (actions.Pairwise fun earlier later =>
        earlier = .stop → later ≠ .setRoute)) :
    ¬ ((actions ++ more).Pairwise fun earlier later =>
      earlier = .stop → later ≠ .setRoute) :=
  fun ordered => behind (List.pairwise_append.mp ordered).1

theorem next_actions
    (performed : self.next = some after) :
    ∃ more, after.actions = self.actions ++ more := by
  unfold ClientControl.next ClientControl.useConnection at performed
  split at performed
  case h_1 | h_6 | h_10 => cases performed
  case h_2 =>
    obtain rfl := Option.some.inj performed
    exact ⟨_, rfl⟩
  case h_16 =>
    obtain rfl := Option.some.inj performed
    exact ⟨_, rfl⟩
  case h_4 | h_14 =>
    obtain rfl := Option.some.inj performed
    split <;> exact ⟨[], (List.append_nil _).symm⟩
  all_goals
    obtain rfl := Option.some.inj performed
    exact ⟨[], (List.append_nil _).symm⟩

theorem step_actions
    {event : ControlEvent}
    (performed : self.step event = some after) :
    ∃ more, after.actions = self.actions ++ more := by
  have unchanged :
      ∃ more, self.actions = self.actions ++ more :=
    ⟨[], (List.append_nil _).symm⟩
  unfold ClientControl.step at performed
  split at performed
  · cases performed
  · cases event with
    | reconnect =>
        obtain rfl := Option.some.inj performed
        unfold Reconnect
        split <;> exact unchanged
    | next => exact next_actions performed
    | networkAvaliable result =>
        simp only at performed
        split at performed
        · obtain rfl := Option.some.inj performed
          exact unchanged
        · cases performed
    | connected result =>
        simp only at performed
        split at performed
        · obtain rfl := Option.some.inj performed
          unfold ClientControl.useConnection
          split <;> exact unchanged
        · cases performed
    | stop =>
        obtain rfl := Option.some.inj performed
        exact ⟨_, rfl⟩

/-- The statements between a lost pointer and its use. -/
theorem nullPointer_next
    (uses : usesConnection self.pc = true)
    (null : self.connection = none)
    (performed : self.next = some after) :
    after.Doomed := by
  unfold ClientControl.next at performed
  split at performed
  case h_4 | h_14 =>
    obtain rfl := Option.some.inj performed
    exact useConnection_null null _
  case h_10 => cases performed
  case h_12 | h_13 =>
    obtain rfl := Option.some.inj performed
    exact .nullPointer rfl null
  all_goals
    rename_i pc
    rw [pc] at uses
    cases uses

/-- The statements between the connection and the route. -/
theorem routing_next
    (sets : setsRoute self.pc = true)
    (stopped : .stop ∈ self.actions)
    (performed : self.next = some after) :
    after.Doomed := by
  unfold ClientControl.next at performed
  split at performed
  case h_13 | h_15 =>
    obtain rfl := Option.some.inj performed
    exact .routing rfl stopped
  case h_14 =>
    obtain rfl := Option.some.inj performed
    unfold ClientControl.useConnection
    split
    · exact .faulted nofun
    · exact .routing rfl stopped
  case h_16 =>
    obtain rfl := Option.some.inj performed
    refine .setBehind fun ordered => ?_
    exact (List.pairwise_append.mp ordered).2.2
      .stop stopped .setRoute List.mem_cons_self rfl rfl
  all_goals
    rename_i pc
    rw [pc] at sets
    cases sets

/-- No step leads back. -/
theorem step
    {event : ControlEvent}
    (doomed : self.Doomed)
    (performed : self.step event = some after) :
    after.Doomed := by
  have appended := step_actions performed
  unfold ClientControl.step at performed
  split at performed
  · cases performed
  · rename_i unfaulted
    cases doomed with
    | faulted fault =>
        exact (unfaulted (Option.isSome_iff_ne_none.mpr fault)).elim
    | setBehind behind =>
        obtain ⟨more, same⟩ := appended
        refine .setBehind ?_
        rw [same]
        exact setBehind_append behind
    | nullPointer uses null =>
        cases event with
        | reconnect =>
            obtain rfl := Option.some.inj performed
            unfold Reconnect
            rw [if_neg fun idle => by rw [idle] at uses; cases uses]
            exact .nullPointer uses null
        | next => exact nullPointer_next uses null performed
        | networkAvaliable result =>
            simp only at performed
            split at performed
            · rename_i pc
              rw [pc] at uses
              cases uses
            · cases performed
        | connected result =>
            simp only at performed
            split at performed
            · obtain rfl := Option.some.inj performed
              exact useConnection_null null _
            · cases performed
        | stop =>
            obtain rfl := Option.some.inj performed
            exact .nullPointer uses rfl
    | routing sets stopped =>
        cases event with
        | reconnect =>
            obtain rfl := Option.some.inj performed
            unfold Reconnect
            rw [if_neg fun idle => by rw [idle] at sets; cases sets]
            exact .routing sets stopped
        | next => exact routing_next sets stopped performed
        | networkAvaliable result =>
            simp only at performed
            split at performed
            · rename_i pc
              rw [pc] at sets
              cases sets
            · cases performed
        | connected result =>
            simp only at performed
            split at performed
            · rename_i pc
              rw [pc] at sets
              cases sets
            · cases performed
        | stop =>
            obtain rfl := Option.some.inj performed
            exact .routing sets (List.mem_append_left _ stopped)

end Doomed

/-- A statement before which no stop may come uses the pointer or the route. -/
theorem not_mayStop
    {pc : ReconnectPc}
    (refused : mayStop pc ≠ true) :
    usesConnection pc = true ∨ setsRoute pc = true := by
  cases pc <;>
    first
    | exact (refused rfl).elim
    | exact Or.inl rfl
    | exact Or.inr rfl

/-- A step that comes too late. -/
theorem InTime.dooms
    {self after : ClientControl}
    {event : ControlEvent}
    (inTime : self.InTime)
    (late : ¬ self.StopsInTime event)
    (performed : self.step event = some after) :
    after.Doomed := by
  unfold ClientControl.step at performed
  split at performed
  · cases performed
  · cases event with
    | reconnect => exact (late trivial).elim
    | next => exact (late trivial).elim
    | networkAvaliable result => exact (late trivial).elim
    | connected result =>
        simp only [StopsInTime, Classical.not_imp,
          Bool.not_eq_false] at late
        obtain ⟨rfl, stopped⟩ := late
        have marked := inTime.marked.mpr stopped
        simp only at performed
        split at performed
        · obtain rfl := Option.some.inj performed
          unfold ClientControl.useConnection
          split
          · exact .faulted nofun
          · exact .routing rfl marked
        · cases performed
    | stop =>
        obtain rfl := Option.some.inj performed
        rcases not_mayStop late with uses | sets
        · exact .nullPointer uses rfl
        · exact .routing sets (by simp [Stop])

/--
In every run in which the stops come in time, nothing goes wrong; and when
`Reconnect` has ended and nothing has gone wrong, they all came in time.
-/
theorem safelyStopped_iff
    {system : System}
    {h : YamlHelper}
    {context : Context}
    (accepted : Context.InitByFile system h {} = some context)
    {events : List ControlEvent}
    {final : ClientControl}
    (reached :
      StepSystem.run ClientControl.step (start context.detail) events =
        some final) :
    (StepSystem.Along ClientControl.step StopsInTime
        (start context.detail) events →
      final.SafelyStopped) ∧
    (final.pc = .idle →
      (final.SafelyStopped ↔
        StepSystem.Along ClientControl.step StopsInTime
          (start context.detail) events)) := by
  have starts : (start context.detail).InTime :=
    .start (Context.InitByFile_conn_protocol accepted)
  have inTime
      (conditions :
        StepSystem.Along ClientControl.step StopsInTime
          (start context.detail) events) :
      final.SafelyStopped :=
    (StepSystem.run_invariant_along
      (fun holds allowed performed => InTime.step holds allowed performed)
      starts conditions reached).safe
  refine ⟨inTime, fun idle => ⟨fun safe => ?_, inTime⟩⟩
  exact StepSystem.along_of_not_doomed
    (fun holds allowed performed => InTime.step holds allowed performed)
    (fun holds late performed => InTime.dooms holds late performed)
    (fun doomed performed => Doomed.step doomed performed)
    starts reached (fun doomed => doomed.not_safe idle safe)

def clientFile : YamlHelper :=
  .ofSettings
    [("is_server", "false"), ("conn_key", "1"), ("conn_protocol", "tcp"),
      ("server_ip_or_name", "10.0.0.1"), ("server_port", "1800")]

/-- Up to the new connection object. -/
def makesConnection : List ControlEvent :=
  [.reconnect, .next, .next, .networkAvaliable true, .next]

def stopBeforeConnect : List ControlEvent :=
  makesConnection ++ [.stop, .connected true]

def stopInLastSleep : List ControlEvent :=
  makesConnection ++ [.connected true, .next, .next, .stop, .next, .next]

theorem stop_not_final :
    ∃ context,
      Context.InitByFile exampleSystem clientFile {} = some context ∧
        (∃ crashed,
          StepSystem.run ClientControl.step (start context.detail)
              stopBeforeConnect =
            some crashed ∧
          crashed.fault = some .nullDereference) ∧
        ∃ routed,
          StepSystem.run ClientControl.step (start context.detail)
              stopInLastSleep =
            some routed ∧
          routed.pc = .idle ∧
          routed.actions =
            [.unsetRoute, .unsetRoute, .stop, .setRoute] ∧
          ¬ ∀ events final,
            StepSystem.run ClientControl.step (start context.detail)
                events =
              some final →
            final.SafelyStopped := by
  have initialised :
      (Context.InitByFile exampleSystem clientFile {}).map
          (fun context => context.detail.conn_protocol) =
        some .TCP := by
    decide +kernel
  obtain ⟨context, accepted, protocol⟩ :=
    Option.map_eq_some_iff.mp initialised
  have starts :
      start context.detail =
        ⟨.TCP, none, false, .idle, [], none⟩ := by
    rw [start, protocol]
  refine ⟨context, accepted, ?_⟩
  rw [starts]
  refine ⟨⟨_, rfl, rfl⟩, _, rfl, rfl, rfl, ?_⟩
  intro final
  have behind := (final stopInLastSleep _ rfl).setBefore
  revert behind
  decide

theorem safelyStopped_iff_retry :
    ∃ context final,
      Context.InitByFile exampleSystem clientFile {} = some context ∧
        StepSystem.run ClientControl.step (start context.detail)
            (makesConnection ++ [.connected false, .stop, .next]) =
          some final ∧
        (StepSystem.Along ClientControl.step StopsInTime
            (start context.detail)
            (makesConnection ++ [.connected false, .stop, .next]) →
          final.SafelyStopped) ∧
        (final.pc = .idle →
          (final.SafelyStopped ↔
            StepSystem.Along ClientControl.step StopsInTime
              (start context.detail)
              (makesConnection ++ [.connected false, .stop, .next]))) := by
  have initialised :
      (Context.InitByFile exampleSystem clientFile {}).map
          (fun context => context.detail.conn_protocol) =
        some .TCP := by
    decide +kernel
  obtain ⟨context, accepted, protocol⟩ :=
    Option.map_eq_some_iff.mp initialised
  have starts :
      start context.detail =
        ⟨.TCP, none, false, .idle, [], none⟩ := by
    rw [start, protocol]
  have reached :
      StepSystem.run ClientControl.step (start context.detail)
          (makesConnection ++ [.connected false, .stop, .next]) =
        some
          ⟨.TCP, none, true, .idle, [.unsetRoute, .unsetRoute, .stop],
            none⟩ := by
    rw [starts]
    rfl
  exact ⟨context, _, accepted, reached,
    safelyStopped_iff accepted reached⟩

end ClientControl

end Dsvpn
