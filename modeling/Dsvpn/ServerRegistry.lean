import Dsvpn.DataPath
import Dsvpn.UnorderedMap

namespace Dsvpn

/-!
# The server registry

`CreateServer` and `DestroyServer` keep the running servers in two maps, by
port and by the address of the client's tunnel.  What they ask of the system
is whether the port can be bound.
-/

abbrev ServerId := Nat

/-- The bytes of a `std::string` up to the first null. -/
def c_str (text : String) : String :=
  String.ofList (text.toList.takeWhile fun char => char ≠ '\x00')

/-- A `Server`; a connection is told by the protocol it was made for. -/
structure ServerObject where
  client_tun_ip_integer : List UInt8
  context : Option Context
  connection : Option ConnProtocolType
  bound : Bool
  deriving Repr, DecidableEq

namespace ServerObject

/-- The settings of a server that `CreateServer` makes. -/
def detail
    (client_tun_ip : String)
    (conn_port : UInt16)
    (conn_key : String) : ContextDetail where
  is_server := true
  ext_if_name := "Router::GetDefaultInterfaceName()"
  gateway_ip := "Router::GetDefaultGatewayIp()"
  tun_if_name := "dsvpn" ++ toString conn_port.toNat
  local_tun_ip := DEFAULT_SERVER_IP
  remote_tun_ip := client_tun_ip
  local_tun_ip6 := "64:ff9b::" ++ DEFAULT_SERVER_IP
  remote_tun_ip6 := "64:ff9b::" ++ client_tun_ip
  server_ip_or_name := "auto"
  server_ip_resolved := "auto"
  mtu := 1500 - 52
  conn_key := conn_key
  server_port := conn_port
  conn_protocol := .UDP

/-- The constructor; `uninitialized` is what the new member holds. -/
def create
    (uninitialized : List UInt8)
    (client_tun_ip : String)
    (conn_port : UInt16)
    (conn_key : String) : ServerObject where
  client_tun_ip_integer := uninitialized
  context := some { detail := detail client_tun_ip conn_port conn_key }
  connection := none
  bound := false

/--
`Run` initialises the context only when there is none, through the null
pointer.  It returns nothing; `binds` is the result of `Bind`.
-/
def Run
    (inet_addr : String → List UInt8)
    (binds : Bool)
    (self : ServerObject) : Except Fault ServerObject :=
  match self.context with
  | none =>
      .error .nullDereference
  | some context =>
      let parsed :=
        { self with
          client_tun_ip_integer := inet_addr context.detail.remote_tun_ip }
      match context.detail.conn_protocol with
      | .UDP =>
          .ok { parsed with connection := some .UDP, bound := binds }
      | .TCP =>
          .ok { parsed with connection := some .TCP, bound := binds }
      | .UTCP =>
          .ok parsed

/-- `Stop` uses both pointers and then resets them. -/
def Stop (self : ServerObject) : Except Fault ServerObject :=
  match self.context, self.connection with
  | some _, some _ =>
      .ok { self with connection := none, context := none }
  | _, _ =>
      .error .nullDereference

/-- A stop that succeeds leaves no context. -/
theorem Stop_cases (self : ServerObject) :
    self.Stop = .error .nullDereference ∨
      self.Stop = .ok { self with connection := none, context := none } := by
  unfold Stop
  split
  · exact Or.inr rfl
  · exact Or.inl rfl

/-- The context was initialised, so the TUN device exists. -/
def Initialised (self : ServerObject) : Prop :=
  ∃ context,
    self.context = some context ∧ context.tun_device.tun_fd ≠ none

end ServerObject

/-- The two maps hold pointers; `created` objects have been made so far. -/
structure Registry where
  servers : ServerId → ServerObject
  created : Nat
  server_map : UnorderedMap UInt16 ServerId
  server_map_tun_ip : UnorderedMap (List UInt8) ServerId
  fault : Option Fault

/-- `binds` and `uninitialized` are what the system and the heap give. -/
inductive RegistryEvent where
  | create
      (client_tun_ip : String)
      (conn_port : UInt16)
      (conn_key : String)
      (uninitialized : List UInt8)
      (binds : Bool)
  | destroy (conn_port : UInt16)

namespace Registry

def empty : Registry where
  servers := fun _ => ⟨[], none, none, false⟩
  created := 0
  server_map := .empty
  server_map_tun_ip := .empty
  fault := none

def setFault (self : Registry) (fault : Fault) : Registry :=
  { self with fault := some fault }

/-- The registry with another object for one pointer. -/
def setServer
    (self : Registry)
    (server : ServerId)
    (object : ServerObject) : Registry :=
  { self with servers := Function.update self.servers server object }

/-- The maps are changed before the server runs. -/
def register
    (inet_addr : String → List UInt8)
    (self : Registry)
    (client_tun_ip : String)
    (conn_port : UInt16)
    (object : ServerObject) : Registry :=
  { self with
    servers := Function.update self.servers self.created object
    created := self.created + 1
    server_map := self.server_map.insert conn_port self.created
    server_map_tun_ip :=
      self.server_map_tun_ip.insert (inet_addr (c_str client_tun_ip))
        self.created }

def CreateServer
    (inet_addr : String → List UInt8)
    (self : Registry)
    (client_tun_ip : String)
    (conn_port : UInt16)
    (conn_key : String)
    (uninitialized : List UInt8)
    (binds : Bool) : Registry × Except Fault Bool :=
  match self.server_map conn_port with
  | some _ =>
      (self, .ok false)
  | none =>
      let object :=
        ServerObject.create uninitialized (c_str client_tun_ip)
          conn_port conn_key
      let registered :=
        self.register inet_addr client_tun_ip conn_port object
      match object.Run inet_addr binds with
      | .error fault =>
          (registered.setFault fault, .error fault)
      | .ok running =>
          (registered.setServer self.created running, .ok true)

/--
The address is read from the context of the server that has just been
stopped.  The second check looks at the first iterator again.
-/
def DestroyServer
    (inet_addr : String → List UInt8)
    (self : Registry)
    (conn_port : UInt16) : Registry × Except Fault Bool :=
  match self.server_map conn_port with
  | none =>
      (self, .ok false)
  | some server =>
      match (self.servers server).Stop with
      | .error fault =>
          (self.setFault fault, .error fault)
      | .ok object =>
          let stopped := self.setServer server object
          match object.context with
          | none =>
              (stopped.setFault .nullDereference, .error .nullDereference)
          | some context =>
              let address := inet_addr context.detail.remote_tun_ip
              match self.server_map_tun_ip address with
              | none =>
                  (stopped.setFault .outOfBounds, .error .outOfBounds)
              | some _ =>
                  ({ stopped with
                      server_map_tun_ip :=
                        self.server_map_tun_ip.erase address
                      server_map := self.server_map.erase conn_port },
                    .ok true)

def step
    (inet_addr : String → List UInt8)
    (self : Registry)
    (event : RegistryEvent) : Option Registry :=
  if self.fault.isSome then
    none
  else
    match event with
    | .create client_tun_ip conn_port conn_key uninitialized binds =>
        some
          (self.CreateServer inet_addr client_tun_ip conn_port conn_key
            uninitialized binds).1
    | .destroy conn_port =>
        some (self.DestroyServer inet_addr conn_port).1

section Calls

variable
    {inet_addr : String → List UInt8}
    {self next : Registry}

/-- The object of a server that has been created and run. -/
def running
    (inet_addr : String → List UInt8)
    (client_tun_ip : String)
    (conn_port : UInt16)
    (conn_key : String)
    (binds : Bool) : ServerObject where
  client_tun_ip_integer := inet_addr (c_str client_tun_ip)
  context :=
    some
      { detail :=
          ServerObject.detail (c_str client_tun_ip) conn_port conn_key }
  connection := some .UDP
  bound := binds

theorem CreateServer_taken
    {client_tun_ip conn_key : String}
    {conn_port : UInt16}
    {uninitialized : List UInt8}
    {binds : Bool}
    (taken : self.server_map conn_port ≠ none) :
    self.CreateServer inet_addr client_tun_ip conn_port conn_key
        uninitialized binds =
      (self, .ok false) := by
  obtain ⟨server, present⟩ := Option.ne_none_iff_exists'.mp taken
  unfold CreateServer
  rw [present]

theorem CreateServer_free
    {client_tun_ip conn_key : String}
    {conn_port : UInt16}
    {uninitialized : List UInt8}
    {binds : Bool}
    (free : self.server_map conn_port = none) :
    self.CreateServer inet_addr client_tun_ip conn_port conn_key
        uninitialized binds =
      (self.register inet_addr client_tun_ip conn_port
          (running inet_addr client_tun_ip conn_port conn_key binds),
        .ok true) := by
  unfold CreateServer
  rw [free]
  simp only [ServerObject.Run, ServerObject.create, ServerObject.detail,
    register, setServer, running, Function.update_idem]

theorem DestroyServer_unregistered
    {conn_port : UInt16}
    (free : self.server_map conn_port = none) :
    self.DestroyServer inet_addr conn_port = (self, .ok false) := by
  unfold DestroyServer
  rw [free]

/-- A server has no context left when its address is read from it. -/
theorem DestroyServer_registered
    {conn_port : UInt16}
    (registered : self.server_map conn_port ≠ none) :
    (self.DestroyServer inet_addr conn_port).2 =
        .error .nullDereference ∧
      (self.DestroyServer inet_addr conn_port).1.fault =
        some .nullDereference := by
  obtain ⟨server, present⟩ := Option.ne_none_iff_exists'.mp registered
  unfold DestroyServer
  rw [present]
  rcases (self.servers server).Stop_cases with stops | stops
  · simp only [stops, setFault, and_self]
  · simp only [stops, setFault, and_self]

/-- The maps, and the addresses of the servers, stay as they are. -/
theorem DestroyServer_maps
    (inet_addr : String → List UInt8)
    (self : Registry)
    (conn_port : UInt16) :
    let after := (self.DestroyServer inet_addr conn_port).1
    after.server_map = self.server_map ∧
      after.server_map_tun_ip = self.server_map_tun_ip ∧
      after.created = self.created ∧
      ∀ server,
        (after.servers server).client_tun_ip_integer =
          (self.servers server).client_tun_ip_integer := by
  unfold DestroyServer
  cases present : self.server_map conn_port with
  | none => exact ⟨rfl, rfl, rfl, fun _ => rfl⟩
  | some server =>
      rcases (self.servers server).Stop_cases with stops | stops
      · simp only [stops]
        exact ⟨rfl, rfl, rfl, fun _ => rfl⟩
      · simp only [stops]
        refine ⟨rfl, rfl, rfl, fun other => ?_⟩
        by_cases same : other = server
        · simp [setFault, setServer, same]
        · simp [setFault, setServer, same]

end Calls

/-! ## Coherence -/

/-- The address of a server's client. -/
def address (self : Registry) (server : ServerId) : List UInt8 :=
  (self.servers server).client_tun_ip_integer

/-- The two maps describe the same servers, with one address each. -/
def Coherent (self : Registry) : Prop :=
  IndexedBy self.server_map self.server_map_tun_ip self.address

/-- A server is created for an address that no registered server has. -/
def FreshAddress
    (inet_addr : String → List UInt8)
    (self : Registry) : RegistryEvent → Prop
  | .create client_tun_ip conn_port _ _ _ =>
      self.server_map conn_port = none →
        ∀ port server,
          self.server_map port = some server →
            self.address server ≠ inet_addr (c_str client_tun_ip)
  | .destroy _ => True

/-- The maps point to objects that have been made. -/
structure PointsToMade (state : Registry) : Prop where
  server_map :
    ∀ {port server},
      state.server_map port = some server → server < state.created
  server_map_tun_ip :
    ∀ {index server},
      state.server_map_tun_ip index = some server →
        server < state.created

section Runs

variable
    {inet_addr : String → List UInt8}
    {self next : Registry}

theorem PointsToMade.register
    (made : self.PointsToMade)
    (client_tun_ip : String)
    (conn_port : UInt16)
    (object : ServerObject) :
    (self.register inet_addr client_tun_ip conn_port
      object).PointsToMade where
  server_map := by
    intro port server present
    rcases UnorderedMap.insert_eq_some present with
      before | ⟨_, _, rfl⟩
    · exact Nat.lt_succ_of_lt (made.server_map before)
    · exact Nat.lt_succ_self _
  server_map_tun_ip := by
    intro index server present
    rcases UnorderedMap.insert_eq_some present with
      before | ⟨_, _, rfl⟩
    · exact Nat.lt_succ_of_lt (made.server_map_tun_ip before)
    · exact Nat.lt_succ_self _

theorem PointsToMade.step
    {event : RegistryEvent}
    (made : self.PointsToMade)
    (performed : self.step inet_addr event = some next) :
    next.PointsToMade := by
  unfold Registry.step at performed
  split at performed
  · cases performed
  · cases event with
    | create client_tun_ip conn_port conn_key uninitialized binds =>
        obtain rfl := Option.some.inj performed
        by_cases free : self.server_map conn_port = none
        · rw [CreateServer_free free]
          exact made.register _ _ _
        · rw [CreateServer_taken free]
          exact made
    | destroy conn_port =>
        obtain rfl := Option.some.inj performed
        obtain ⟨ports, addresses, created, _⟩ :=
          self.DestroyServer_maps inet_addr conn_port
        constructor
        · intro port server present
          rw [ports] at present
          rw [created]
          exact made.server_map present
        · intro index server present
          rw [addresses] at present
          rw [created]
          exact made.server_map_tun_ip present

/-- A new server fits in exactly if its address is free. -/
theorem coherent_register_iff
    (made : self.PointsToMade)
    {client_tun_ip : String}
    {conn_port : UInt16}
    {object : ServerObject}
    (free : self.server_map conn_port = none)
    (own :
      object.client_tun_ip_integer = inet_addr (c_str client_tun_ip)) :
    (self.register inet_addr client_tun_ip conn_port object).Coherent ↔
      self.Coherent ∧
        ∀ port server,
          self.server_map port = some server →
            self.address server ≠ inet_addr (c_str client_tun_ip) := by
  let after := self.register inet_addr client_tun_ip conn_port object
  have newAddress :
      after.address self.created = inet_addr (c_str client_tun_ip) := by
    simp [after, address, register, own]
  have oldAddress
      {server : ServerId}
      (below : server < self.created) :
      after.address server = self.address server := by
    simp [after, address, register, Nat.ne_of_lt below]
  have maps :
      after.Coherent ↔
        IndexedBy (self.server_map.insert conn_port self.created)
          (self.server_map_tun_ip.insert (after.address self.created)
            self.created)
          after.address := by
    rw [newAddress]
    rfl
  change after.Coherent ↔ _
  rw [maps]
  constructor
  · intro indexed
    obtain ⟨before, fresh⟩ :=
      indexed.of_insert free
        (fun port present =>
          Nat.lt_irrefl _ (made.server_map present))
        (fun index present =>
          Nat.lt_irrefl _ (made.server_map_tun_ip present))
    have coherent : self.Coherent :=
      before.congr
        (fun _ _ present => (oldAddress (made.server_map present)).symm)
        (fun _ _ present =>
          (oldAddress (made.server_map_tun_ip present)).symm)
    refine ⟨coherent, fun port server present same => ?_⟩
    rw [newAddress, ← same, coherent.found present] at fresh
    cases fresh
  · rintro ⟨coherent, fresh⟩
    have indexed :
        IndexedBy self.server_map self.server_map_tun_ip after.address :=
      IndexedBy.congr coherent
        (fun _ _ present => oldAddress (made.server_map present))
        (fun _ _ present => oldAddress (made.server_map_tun_ip present))
    refine indexed.insert free ?_
    rw [newAddress]
    by_contra used
    obtain ⟨server, there⟩ := Option.ne_none_iff_exists'.mp used
    obtain ⟨same, port, present⟩ := coherent.registered there
    exact fresh port server present same

/-- Each call keeps the registry coherent exactly if the address is free. -/
theorem coherent_step_iff
    {event : RegistryEvent}
    (made : self.PointsToMade)
    (performed : self.step inet_addr event = some next) :
    next.Coherent ↔ self.Coherent ∧ self.FreshAddress inet_addr event := by
  unfold Registry.step at performed
  split at performed
  · cases performed
  · cases event with
    | create client_tun_ip conn_port conn_key uninitialized binds =>
        obtain rfl := Option.some.inj performed
        by_cases free : self.server_map conn_port = none
        · rw [CreateServer_free free, coherent_register_iff made free rfl]
          simp only [FreshAddress, free, true_implies]
        · rw [CreateServer_taken free]
          simp only [FreshAddress, free, false_implies, and_true]
    | destroy conn_port =>
        obtain rfl := Option.some.inj performed
        obtain ⟨ports, addresses, _, same⟩ :=
          self.DestroyServer_maps inet_addr conn_port
        have own :
            (self.DestroyServer inet_addr conn_port).1.address =
              self.address :=
          funext same
        simp only [Coherent, FreshAddress, ports, addresses, own, and_true]

/--
The registry is coherent after exactly the runs in which every server was
created for a free address; and in every run, destroying a server leaves the
entries of the others.
-/
theorem coherent_iff
    {events : List RegistryEvent}
    {final : Registry}
    (reached :
      StepSystem.run (step inet_addr) empty events = some final) :
    (final.Coherent ↔
      StepSystem.Along (step inet_addr)
        (fun state event => state.FreshAddress inet_addr event)
        empty events) ∧
    ∀ conn_port server,
      final.server_map conn_port ≠ some server →
        (∀ port,
          final.server_map port = some server →
            (final.DestroyServer inet_addr conn_port).1.server_map port =
              some server) ∧
        ∀ index,
          final.server_map_tun_ip index = some server →
            (final.DestroyServer inet_addr
                conn_port).1.server_map_tun_ip index =
              some server := by
  have made : empty.PointsToMade := ⟨nofun, nofun⟩
  constructor
  · have coherent : empty.Coherent := IndexedBy.empty
    have along := StepSystem.run_iff_along
      (fun made performed => PointsToMade.step made performed)
      (fun made performed => coherent_step_iff made performed)
      made reached
    rw [along]
    exact and_iff_right coherent
  · intro conn_port server _
    obtain ⟨ports, addresses, _⟩ :=
      final.DestroyServer_maps inet_addr conn_port
    rw [ports, addresses]
    exact ⟨fun _ present => present, fun _ present => present⟩

end Runs

/--
`true` is returned only for a server that works, and otherwise the maps are as
they were.
-/
def CreatesTruthfully
    (inet_addr : String → List UInt8)
    (self : Registry)
    (client_tun_ip : String)
    (conn_port : UInt16)
    (conn_key : String)
    (uninitialized : List UInt8)
    (binds : Bool) : Prop :=
  let call :=
    self.CreateServer inet_addr client_tun_ip conn_port conn_key
      uninitialized binds
  let server := call.1.servers self.created
  (call.2 = .ok true → server.Initialised ∧ server.bound = true) ∧
    (self.server_map conn_port ≠ none ∨ ¬ server.Initialised ∨
        server.bound = false →
      call.2 = .ok false ∧
        call.1.server_map = self.server_map ∧
        call.1.server_map_tun_ip = self.server_map_tun_ip)

/-- No server that `CreateServer` makes has a TUN device. -/
theorem not_initialised_running
    (inet_addr : String → List UInt8)
    (client_tun_ip : String)
    (conn_port : UInt16)
    (conn_key : String)
    (binds : Bool) :
    ¬ (running inet_addr client_tun_ip conn_port conn_key
      binds).Initialised := by
  rintro ⟨context, same, opened⟩
  obtain rfl := Option.some.inj same
  exact opened rfl

/-- `CreateServer` keeps its promise only when it refuses. -/
theorem createsTruthfully_iff
    (inet_addr : String → List UInt8)
    (self : Registry)
    (client_tun_ip : String)
    (conn_port : UInt16)
    (conn_key : String)
    (uninitialized : List UInt8)
    (binds : Bool) :
    self.CreatesTruthfully inet_addr client_tun_ip conn_port conn_key
        uninitialized binds ↔
      self.server_map conn_port ≠ none := by
  constructor
  · intro truthful free
    unfold CreatesTruthfully at truthful
    rw [CreateServer_free free] at truthful
    have made :
        (self.register inet_addr client_tun_ip conn_port
            (running inet_addr client_tun_ip conn_port conn_key
              binds)).servers self.created =
          running inet_addr client_tun_ip conn_port conn_key binds := by
      simp [register]
    simp only [made, true_implies] at truthful
    exact not_initialised_running inet_addr client_tun_ip conn_port
      conn_key binds truthful.1.1
  · intro taken
    unfold CreatesTruthfully
    rw [CreateServer_taken taken]
    exact ⟨nofun, fun _ => ⟨rfl, rfl, rfl⟩⟩

/--
A registered server is removed from both maps, and nothing else is; without
one nothing happens.
-/
def DestroysExactly
    (inet_addr : String → List UInt8)
    (self : Registry)
    (conn_port : UInt16) : Prop :=
  let call := self.DestroyServer inet_addr conn_port
  match self.server_map conn_port with
  | none =>
      call = (self, .ok false)
  | some server =>
      call.2 = .ok true ∧
        call.1.fault = none ∧
        call.1.server_map = self.server_map.erase conn_port ∧
        call.1.server_map_tun_ip =
          self.server_map_tun_ip.erase (self.address server)

/-- `DestroyServer` does so only when there is nothing to destroy. -/
theorem destroysExactly_iff
    (inet_addr : String → List UInt8)
    (self : Registry)
    (conn_port : UInt16) :
    self.DestroysExactly inet_addr conn_port ↔
      self.server_map conn_port = none := by
  unfold DestroysExactly
  cases present : self.server_map conn_port with
  | none =>
      simp only [iff_true]
      exact DestroyServer_unregistered present
  | some server =>
      have registered : self.server_map conn_port ≠ none := by
        rw [present]
        exact nofun
      have crashes :
          (self.DestroyServer inet_addr conn_port).2 =
            .error .nullDereference :=
        (DestroyServer_registered registered).1
      simp [crashes]

def oneClient : List RegistryEvent :=
  [.create DEFAULT_CLIENT_IP 1800 "12345678" [] true]

def oneClientTwice : List RegistryEvent :=
  oneClient ++ [.create DEFAULT_CLIENT_IP 1900 "12345678" [] true]

def twoClients : List RegistryEvent :=
  oneClient ++ [.create "192.168.192.120" 1900 "12345678" [] true]

/-- The second server is in one of the maps only. -/
theorem oneClientTwice_incoherent :
    ∃ final,
      StepSystem.run (step exampleInetAddr) empty oneClientTwice =
          some final ∧
        final.server_map 1900 = some 1 ∧
        final.server_map_tun_ip (final.address 1) = some 0 ∧
        ¬ final.Coherent := by
  have entries :
      (StepSystem.run (step exampleInetAddr) empty oneClientTwice).map
          (fun final =>
            (final.server_map 1900,
              final.server_map_tun_ip (final.address 1))) =
        some (some 1, some 0) := by
    decide +kernel
  obtain ⟨final, reached, both⟩ := Option.map_eq_some_iff.mp entries
  obtain ⟨port, index⟩ := Prod.mk.inj both
  refine ⟨final, reached, port, index, fun coherent => ?_⟩
  have found := coherent.found port
  rw [index] at found
  cases found

theorem coherent_iff_twoClients :
    ∃ final,
      StepSystem.run (step exampleInetAddr) empty twoClients =
          some final ∧
        (final.Coherent ↔
          StepSystem.Along (step exampleInetAddr)
            (fun state event => state.FreshAddress exampleInetAddr event)
            empty twoClients) ∧
        ∀ conn_port server,
          final.server_map conn_port ≠ some server →
            (∀ port,
              final.server_map port = some server →
                (final.DestroyServer exampleInetAddr
                    conn_port).1.server_map port =
                  some server) ∧
            ∀ index,
              final.server_map_tun_ip index = some server →
                (final.DestroyServer exampleInetAddr
                    conn_port).1.server_map_tun_ip index =
                  some server := by
  have runs :
      (StepSystem.run (step exampleInetAddr) empty twoClients).isSome := by
    decide +kernel
  obtain ⟨final, reached⟩ := Option.isSome_iff_exists.mp runs
  exact ⟨final, reached, coherent_iff reached⟩

/-- The port cannot be bound, there is no TUN device, and the call succeeds. -/
theorem createsTruthfully_not :
    let call :=
      empty.CreateServer exampleInetAddr DEFAULT_CLIENT_IP 1800
        "12345678" [] false
    call.2 = .ok true ∧
      (call.1.servers 0).bound = false ∧
      ((call.1.servers 0).context.map fun context =>
          context.tun_device.tun_fd) =
        some none ∧
      call.1.server_map 1800 = some 0 ∧
      ¬ empty.CreatesTruthfully exampleInetAddr DEFAULT_CLIENT_IP 1800
        "12345678" [] false := by
  refine ⟨rfl, rfl, rfl, rfl, fun truthful => ?_⟩
  obtain ⟨context, same, opened⟩ := (truthful.1 rfl).1
  obtain rfl := Option.some.inj same
  exact opened rfl

/-- A server that was just created cannot be destroyed. -/
theorem destroysExactly_not :
    ∃ created,
      StepSystem.run (step exampleInetAddr) empty oneClient =
          some created ∧
        created.server_map 1800 = some 0 ∧
        (created.DestroyServer exampleInetAddr 1800).2 =
          .error .nullDereference ∧
        ¬ created.DestroysExactly exampleInetAddr 1800 := by
  refine ⟨_, rfl, rfl, rfl, fun removes => ?_⟩
  cases removes.1

end Registry

end Dsvpn
