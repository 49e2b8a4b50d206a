import Dsvpn.ClientRoutes
import Dsvpn.OsxRoutes

namespace Dsvpn

open PolicyRouting Ip

/-!
# Where the client's packets go

The routes of the client along the runs of `Reconnect` and `Stop`: between two
calls of `Reconnect` the packets go through the tunnel, during a call and after
a stop that came in time they go where they went before.
-/

/-- The last of the actions that changes routes. -/
def lastChange (actions : List RouteAction) : Option RouteAction :=
  (actions.filter fun action => action ≠ .stop).getLast?

theorem lastChange_concat
    {actions : List RouteAction}
    {action : RouteAction}
    (changes : action ≠ .stop) :
    lastChange (actions ++ [action]) = some action := by
  simp [lastChange, changes]

theorem lastChange_stop {actions : List RouteAction} :
    lastChange (actions ++ [.stop]) = lastChange actions := by
  simp [lastChange]

/-- The routes are only set where they were taken back before. -/
inductive SetsAfterUnset : List RouteAction → Prop where
  | nothing : SetsAfterUnset []
  | unsetRoute {actions : List RouteAction} :
      SetsAfterUnset actions →
      SetsAfterUnset (actions ++ [.unsetRoute])
  | setRoute {actions : List RouteAction} :
      SetsAfterUnset actions →
      lastChange actions = some .unsetRoute →
      SetsAfterUnset (actions ++ [.setRoute])
  | stop {actions : List RouteAction} :
      SetsAfterUnset actions →
      SetsAfterUnset (actions ++ [.stop])

/-- What the actions make of the routes; to take them back twice does no harm. -/
structure Changes
    (perform : (Family → Routes) → RouteAction → Family → Routes)
    (initial : Family → Routes)
    (IsSet IsUnset : (Family → Routes) → Prop) : Prop where
  initially : IsUnset initial
  setRoute :
    ∀ {routes}, IsUnset routes → IsSet (perform routes .setRoute)
  unsetRoute :
    ∀ {routes},
      IsSet routes ∨ IsUnset routes → IsUnset (perform routes .unsetRoute)
  stop : ∀ routes, perform routes .stop = routes

/-- Only the last change counts. -/
theorem Changes.foldl
    {perform : (Family → Routes) → RouteAction → Family → Routes}
    {initial : Family → Routes}
    {IsSet IsUnset : (Family → Routes) → Prop}
    (changes : Changes perform initial IsSet IsUnset)
    {actions : List RouteAction}
    (ordered : SetsAfterUnset actions) :
    if lastChange actions = some .setRoute then
      IsSet (actions.foldl perform initial)
    else
      IsUnset (actions.foldl perform initial) := by
  induction ordered with
  | nothing => exact changes.initially
  | @unsetRoute actions ordered inductionHypothesis =>
      have either :
          IsSet (actions.foldl perform initial) ∨
            IsUnset (actions.foldl perform initial) := by
        split at inductionHypothesis
        · exact .inl inductionHypothesis
        · exact .inr inductionHypothesis
      rw [List.foldl_concat, lastChange_concat (by decide),
        if_neg (by decide)]
      exact changes.unsetRoute either
  | @setRoute actions ordered wasUnset inductionHypothesis =>
      rw [wasUnset, if_neg (by decide)] at inductionHypothesis
      rw [List.foldl_concat, lastChange_concat (by decide), if_pos rfl]
      exact changes.setRoute inductionHypothesis
  | @stop actions ordered inductionHypothesis =>
      rw [List.foldl_concat, lastChange_stop, changes.stop]
      exact inductionHypothesis

/-- The commands are for some families; nothing happens to the others. -/
def ForFamilies
    (context : ContextDetail)
    (initial : Family → Routes)
    (Condition : Family → Routes → Prop)
    (routes : Family → Routes) : Prop :=
  ∀ family,
    if family ∈ families context then
      Condition family (routes family)
    else
      routes family = initial family

section

variable
    {context : ContextDetail}
    {initial routes after : Family → Routes}
    {Condition Other : Family → Routes → Prop}
    {changes : Family → List RouteChange}

theorem ForFamilies.either
    (holds :
      ForFamilies context initial Condition routes ∨
        ForFamilies context initial Other routes) :
    ForFamilies context initial
      (fun family routes => Condition family routes ∨ Other family routes)
      routes := by
  intro family
  split
  · rename_i concerned
    refine holds.imp (fun first => ?_) fun second => ?_
    · simpa [concerned] using first family
    · simpa [concerned] using second family
  · rename_i other
    rcases holds with first | second
    · simpa [other] using first family
    · simpa [other] using second family

theorem ForFamilies.changed
    (holds : ForFamilies context initial Condition routes)
    (performed :
      ∀ family,
        after family =
          if family ∈ families context then
            (changes family).foldl Routing.apply (routes family)
          else
            routes family)
    (leads :
      ∀ family ∈ families context,
        Condition family (routes family) →
          Other family
            ((changes family).foldl Routing.apply (routes family))) :
    ForFamilies context initial Other after := by
  intro family
  have before := holds family
  rw [performed]
  split
  · rename_i concerned
    rw [if_pos concerned] at before
    exact leads family concerned before
  · rename_i other
    rwa [if_neg other] at before

end

/-- It is enough to look at the changes to one family. -/
theorem Changes.of_families
    {context : ContextDetail}
    {perform : (Family → Routes) → RouteAction → Family → Routes}
    {initial : Family → Routes}
    {set unset : Family → List RouteChange}
    {Installed Restored : Family → Routes → Prop}
    (sets :
      ∀ routes family,
        perform routes .setRoute family =
          if family ∈ families context then
            (set family).foldl Routing.apply (routes family)
          else
            routes family)
    (unsets :
      ∀ routes family,
        perform routes .unsetRoute family =
          if family ∈ families context then
            (unset family).foldl Routing.apply (routes family)
          else
            routes family)
    (stop : ∀ routes, perform routes .stop = routes)
    (initially :
      ∀ family ∈ families context, Restored family (initial family))
    (installs :
      ∀ family ∈ families context, ∀ routes,
        Restored family routes →
          Installed family ((set family).foldl Routing.apply routes))
    (restores :
      ∀ family ∈ families context, ∀ routes,
        Installed family routes ∨ Restored family routes →
          Restored family ((unset family).foldl Routing.apply routes)) :
    Changes perform initial (ForFamilies context initial Installed)
      (ForFamilies context initial Restored) where
  initially family := by
    split
    · exact initially family ‹_›
    · rfl
  setRoute restored :=
    ForFamilies.changed restored (sets _)
      fun family concerned => installs family concerned _
  unsetRoute made :=
    (ForFamilies.either made).changed (unsets _)
      fun family concerned => restores family concerned _
  stop := stop

namespace ClientControl

/-- `Reconnect` has taken the routes back and not yet set them. -/
def connecting : ReconnectPc → Bool
  | .idle => false
  | .unsetRoute => false
  | _ => true

/-- The statement tells the last change, but between calls after a stop. -/
structure Follows (state : ClientControl) : Prop where
  ordered : SetsAfterUnset state.actions
  between :
    state.stopped = false →
      connecting state.pc = false →
      state.actions = [] ∨ lastChange state.actions = some .setRoute
  during :
    connecting state.pc = true →
      lastChange state.actions = some .unsetRoute

namespace Follows

theorem start (detail : ContextDetail) : (start detail).Follows where
  ordered := .nothing
  between _ _ := .inl rfl
  during := nofun

variable {self after : ClientControl}

/-- Another statement of the same part, and the same changes. -/
theorem goOn
    (follows : self.Follows)
    (sameStop : after.stopped = self.stopped)
    (samePart : connecting after.pc = connecting self.pc)
    (sameActions : after.actions = self.actions) :
    after.Follows where
  ordered := by
    rw [sameActions]
    exact follows.ordered
  between := by
    rw [sameStop, samePart, sameActions]
    exact follows.between
  during := by
    rw [samePart, sameActions]
    exact follows.during

theorem useConnection
    (follows : self.Follows)
    {pc : ReconnectPc}
    (samePart : connecting pc = connecting self.pc) :
    (self.useConnection pc).Follows := by
  unfold ClientControl.useConnection
  split
  · exact follows.goOn rfl rfl rfl
  · exact follows.goOn rfl samePart rfl

/-- A statement that waits no more when the client is stopped. -/
theorem unlessStopped
    (follows : self.Follows)
    {pc : ReconnectPc}
    (samePart : connecting pc = connecting self.pc) :
    ({ self with
        pc := if self.stopped then .idle else pc } :
      ClientControl).Follows := by
  cases stopped : self.stopped with
  | false => exact follows.goOn stopped.symm samePart rfl
  | true =>
      exact
        { ordered := follows.ordered
          between := nofun
          during := nofun }

theorem next
    (follows : self.Follows)
    (performed : self.next = some after) :
    after.Follows := by
  unfold ClientControl.next at performed
  split at performed
  case h_1 | h_6 | h_10 => cases performed
  case h_2 =>
    obtain rfl := Option.some.inj performed
    refine ⟨follows.ordered.unsetRoute, ?_, ?_⟩
    · intro _ between
      cases between
    · intro _
      exact lastChange_concat (by decide)
  case h_3 pc =>
    obtain rfl := Option.some.inj performed
    refine follows.goOn rfl ?_ rfl
    rw [pc]
    split <;> rfl
  case h_4 pc | h_14 pc =>
    obtain rfl := Option.some.inj performed
    exact follows.useConnection (by rw [pc]; rfl)
  case h_7 pc | h_11 pc =>
    obtain rfl := Option.some.inj performed
    exact follows.unlessStopped (by rw [pc]; rfl)
  case h_16 pc =>
    obtain rfl := Option.some.inj performed
    have wasUnset := follows.during (by rw [pc]; rfl)
    refine ⟨follows.ordered.setRoute wasUnset, ?_, ?_⟩
    · intro _ _
      exact .inr (lastChange_concat (by decide))
    · intro during
      cases during
  all_goals
    rename_i pc
    obtain rfl := Option.some.inj performed
    exact follows.goOn rfl (by rw [pc]; rfl) rfl

theorem stop (follows : self.Follows) : self.Stop.Follows := by
  have shape :
      self.Stop.actions = self.actions ++ [.unsetRoute] ++ [.stop] := by
    rw [List.append_assoc]
    rfl
  refine ⟨?_, ?_, ?_⟩
  · rw [shape]
    exact follows.ordered.unsetRoute.stop
  · intro running
    cases running
  · intro _
    rw [shape, lastChange_stop]
    exact lastChange_concat (by decide)

theorem step
    {event : ControlEvent}
    (follows : self.Follows)
    (performed : self.step event = some after) :
    after.Follows := by
  unfold ClientControl.step at performed
  split at performed
  · cases performed
  · cases event with
    | reconnect =>
        obtain rfl := Option.some.inj performed
        unfold Reconnect
        split
        · rename_i idle
          exact follows.goOn rfl (by rw [idle]; rfl) rfl
        · exact follows
    | next => exact follows.next performed
    | networkAvaliable result =>
        simp only at performed
        split at performed
        · rename_i pc
          obtain rfl := Option.some.inj performed
          refine follows.goOn rfl ?_ rfl
          rw [pc]
          cases result <;> rfl
        · cases performed
    | connected result =>
        simp only at performed
        split at performed
        · rename_i pc
          obtain rfl := Option.some.inj performed
          refine follows.useConnection ?_
          rw [pc]
          cases result <;> rfl
        · cases performed
    | stop =>
        obtain rfl := Option.some.inj performed
        exact follows.stop

end Follows

theorem routes_of_run
    {system : System}
    {h : YamlHelper}
    {context : Context}
    (accepted : Context.InitByFile system h {} = some context)
    {perform : (Family → Routes) → RouteAction → Family → Routes}
    {initial : Family → Routes}
    {IsSet IsUnset : (Family → Routes) → Prop}
    (changes : Changes perform initial IsSet IsUnset)
    {events : List ControlEvent}
    {final : ClientControl}
    (reached :
      StepSystem.run ClientControl.step (start context.detail) events =
        some final) :
    (final.stopped = false →
      connecting final.pc = false →
      final.actions ≠ [] →
      IsSet (final.actions.foldl perform initial)) ∧
    (final.stopped = false →
      connecting final.pc = true →
      IsUnset (final.actions.foldl perform initial)) ∧
    (final.stopped = true →
      StepSystem.Along ClientControl.step StopsInTime
        (start context.detail) events →
      IsUnset (final.actions.foldl perform initial)) ∧
    (IsSet (final.actions.foldl perform initial) ∨
      IsUnset (final.actions.foldl perform initial)) := by
  have follows : final.Follows :=
    StepSystem.run_invariant
      (fun holds performed => Follows.step holds performed)
      (Follows.start context.detail) reached
  have last := changes.foldl follows.ordered
  refine ⟨?_, ?_, ?_, ?_⟩
  · intro running part changed
    rwa [(follows.between running part).resolve_left changed,
      if_pos rfl] at last
  · intro running part
    rwa [follows.during part, if_neg (by decide)] at last
  · intro stopped conditions
    have starts : (start context.detail).InTime :=
      .start (Context.InitByFile_conn_protocol accepted)
    have inTime : final.InTime :=
      StepSystem.run_invariant_along
        (fun holds allowed performed =>
          InTime.step holds allowed performed)
        starts conditions reached
    have unset : lastChange final.actions = some .unsetRoute :=
      inTime.safe.unsetLast (inTime.marked.mpr stopped)
    rwa [unset, if_neg (by decide)] at last
  · split at last
    · exact .inl last
    · exact .inr last

/-- Every packet with the mark, to any address of the families. -/
def ThroughTunnel
    (context : ContextDetail)
    (peer : Family → Option (Route Hop))
    (tunnel : Family → Hop)
    (initial routes : Family → Routes)
    (mark : Nat) : Prop :=
  ∀ family ∈ families context, ∀ address : List Bool,
    address.length = family.bits →
      lookup Selector.selects (routes family) mark address =
        some
          (throughTunnel ((initial family).table "main") (peer family)
            (tunnel family) address)

/-- Every packet, with any mark. -/
def AsBefore (initial routes : Routes) : Prop :=
  ∀ (mark : Nat) (address : List Bool),
    lookup Selector.selects routes mark address =
      lookup Selector.selects initial mark address

/--
Between two calls of `Reconnect` all packets go through the tunnel, but those
to the server and to where the host has a route.  During a call, after a stop
that came in time and for a family that the commands are not for, they go where
they would go without the client.
-/
structure Routed
    (context : ContextDetail)
    (peer : Family → Option (Route Hop))
    (tunnel : Family → Hop)
    (unmarked : Nat → Prop)
    (initial : Family → Routes)
    (events : List ControlEvent)
    (final : ClientControl)
    (routes : Family → Routes) : Prop where
  between :
    final.stopped = false →
      connecting final.pc = false →
      final.actions ≠ [] →
      ∀ mark, unmarked mark →
        ThroughTunnel context peer tunnel initial routes mark
  during :
    final.stopped = false →
      connecting final.pc = true →
      ∀ family, AsBefore (initial family) (routes family)
  stopped :
    final.stopped = true →
      StepSystem.Along ClientControl.step StopsInTime (start context)
        events →
      ∀ family, AsBefore (initial family) (routes family)
  others :
    ∀ family, family ∉ families context →
      AsBefore (initial family) (routes family)

theorem Routed.of_changes
    {system : System}
    {h : YamlHelper}
    {context : Context}
    (accepted : Context.InitByFile system h {} = some context)
    {peer : Family → Option (Route Hop)}
    {tunnel : Family → Hop}
    {unmarked : Nat → Prop}
    {perform : (Family → Routes) → RouteAction → Family → Routes}
    {initial : Family → Routes}
    {Installed Restored : Family → Routes → Prop}
    (changes :
      Changes perform initial
        (ForFamilies context.detail initial Installed)
        (ForFamilies context.detail initial Restored))
    (installed :
      ∀ family ∈ families context.detail, ∀ routes,
        Installed family routes →
        ∀ mark, unmarked mark → ∀ address : List Bool,
          address.length = family.bits →
            lookup Selector.selects routes mark address =
              some
                (throughTunnel ((initial family).table "main")
                  (peer family) (tunnel family) address))
    (restored :
      ∀ family ∈ families context.detail, ∀ routes,
        Restored family routes → AsBefore (initial family) routes)
    {events : List ControlEvent}
    {final : ClientControl}
    (reached :
      StepSystem.run ClientControl.step (start context.detail) events =
        some final) :
    Routed context.detail peer tunnel unmarked initial events final
      (final.actions.foldl perform initial) := by
  have asBefore
      {routes : Family → Routes}
      (unset : ForFamilies context.detail initial Restored routes)
      (family : Family) :
      AsBefore (initial family) (routes family) := by
    have here := unset family
    split at here
    · exact restored family ‹_› _ here
    · rw [here]
      exact fun _ _ => rfl
  obtain ⟨between, during, stopped, either⟩ :=
    routes_of_run accepted changes reached
  constructor
  · intro running part changed mark isUnmarked family concerned
    have here := between running part changed family
    rw [if_pos concerned] at here
    exact installed family concerned _ here mark isUnmarked
  · intro running part
    exact asBefore (during running part)
  · intro isStopped conditions
    exact asBefore (stopped isStopped conditions)
  · intro family other
    have same :
        final.actions.foldl perform initial family = initial family := by
      rcases either with holds | holds
      · simpa [other] using holds family
      · simpa [other] using holds family
    rw [same]
    exact fun _ _ => rfl

/-! ## Linux -/

theorem packets_routed
    {system : System}
    {h : YamlHelper}
    {context : Context}
    (accepted : Context.InitByFile system h {} = some context)
    {host : Host}
    {server : List Bool}
    {gateway interface : String}
    (ready : Ready host context.detail server gateway interface)
    {initial : Family → Routes}
    (untouched :
      ∀ family ∈ families context.detail,
        Untouched (initial family)
          (serverRoute server gateway interface family))
    {events : List ControlEvent}
    {final : ClientControl}
    (reached :
      StepSystem.run ClientControl.step (start context.detail) events =
        some final) :
    Routed context.detail (serverRoute server gateway interface)
      (fun _ => ⟨none, some context.detail.tun_if_name⟩)
      (fun mark => mark ≠ 42069) initial events final
      (final.actions.foldl (host.perform context.detail) initial) := by
  have changes :=
    Changes.of_families ready.perform_setRoute ready.perform_unsetRoute
      (fun _ => rfl)
      (fun family concerned => (untouched family concerned).restored)
      (fun family concerned _ restored =>
        set_installs (untouched family concerned) restored)
      (fun family concerned _ made =>
        unset_restores (untouched family concerned)
          (made.elim Installed.made Restored.made))
  refine Routed.of_changes accepted changes ?_ ?_ reached
  · intro family concerned routes installed mark isUnmarked address bits
    have sameLength :
        ∀ route ∈ serverRoute server gateway interface family,
          address.length = route.destination.length := by
      cases family with
      | inet =>
          rintro route ⟨⟩
          rw [bits, ready.serverBits]
      | inet6 => exact nofun
    have nonempty : address ≠ [] := by
      rintro rfl
      cases family <;> cases bits
    exact
      lookup_installed (untouched family concerned) installed isUnmarked
        sameLength nonempty
  · intro family concerned routes restored
    exact lookup_restored (untouched family concerned) restored

def dualStackFile : YamlHelper :=
  .ofSettings
    [("is_server", "false"), ("conn_key", "1"), ("conn_protocol", "tcp"),
      ("server_ip_or_name", "10.0.1.7"), ("server_port", "1800"),
      ("ipv6", "true")]

/-- What the file is read to, and what the device is called. -/
def dualStackDetail : ContextDetail where
  tun_if_name := "dsvpn"
  local_tun_ip := "192.168.192.100"
  remote_tun_ip := "192.168.192.1"
  local_tun_ip6 := "64:ff9b::192.168.192.100"
  remote_tun_ip6 := "64:ff9b::192.168.192.1"
  server_ip_or_name := "10.0.1.7"
  server_ip_resolved := "10.0.1.7"
  conn_key := "1"
  conn_protocol := .TCP
  ipv6 := true

/-- The bits of some bytes of an address. -/
def bitsOf (bytes : List Nat) : List Bool :=
  bytes.flatMap fun byte => [7, 6, 5, 4, 3, 2, 1, 0].map byte.testBit

def wiredHost : Host where
  address text :=
    if text = "10.0.1.7" then some (.inet, bitsOf [10, 0, 1, 7]) else none
  accepts family hop :=
    decide
      (hop.dev = some "dsvpn" ∨
        (family = .inet ∧ hop = ⟨some "10.0.0.1", some "eth0"⟩))
  listing := some (DefaultRoute.listing [DefaultRoute.wired])

/-- A default route and, for `inet`, one to the network of the host. -/
def wiredRoutes : Family → Routes
  | .inet =>
      { table name :=
          if name = "main" then
            [⟨[], ⟨some "10.0.0.1", some "eth0"⟩⟩,
              ⟨bitsOf [10, 0, 0], ⟨none, some "eth0"⟩⟩]
          else
            []
        rules :=
          [⟨everything, "main", none⟩, ⟨everything, "default", none⟩] }
  | .inet6 =>
      { table name :=
          if name = "main" then
            [⟨[], ⟨some "fe80::1", some "eth0"⟩⟩]
          else
            []
        rules := [⟨everything, "main", none⟩] }

theorem wiredHost_ready :
    Ready wiredHost dualStackDetail (bitsOf [10, 0, 1, 7]) "10.0.0.1"
      "eth0" where
  serverWord := by decide
  tunWord := by decide
  gatewayWord := by decide
  interfaceWord := by decide
  serverBits := by decide
  serverPlain := by decide
  gatewayPlain := by decide
  notDefault := by decide
  resolved := by decide
  listing := ⟨DefaultRoute.wired, rfl, by decide, by decide⟩
  acceptsTunnel family := by cases family <;> decide
  acceptsServer := by decide

theorem wiredRoutes_untouched (family : Family) :
    Untouched (wiredRoutes family)
      (serverRoute (bitsOf [10, 0, 1, 7]) "10.0.0.1" "eth0" family) := by
  cases family with
  | inet =>
      constructor
      · decide
      · decide
      · rintro host ⟨⟩
        decide
  | inet6 =>
      constructor
      · decide
      · decide
      · exact nofun

theorem packets_routed_dualStack :
    ∃ context final,
      Context.InitByFile exampleSystem dualStackFile {} = some context ∧
        StepSystem.run ClientControl.step (start context.detail)
            (makesConnection ++
              [.connected true, .next, .next, .next, .next]) =
          some final ∧
        ∀ mark, mark ≠ 42069 →
          ThroughTunnel context.detail
            (serverRoute (bitsOf [10, 0, 1, 7]) "10.0.0.1" "eth0")
            (fun _ => ⟨none, some "dsvpn"⟩) wiredRoutes
            (final.actions.foldl (wiredHost.perform context.detail)
              wiredRoutes)
            mark := by
  have initialised :
      (Context.InitByFile exampleSystem dualStackFile {}).map
          (fun context => context.detail) =
        some dualStackDetail := by
    decide +kernel
  obtain ⟨context, accepted, detail⟩ :=
    Option.map_eq_some_iff.mp initialised
  have reached :
      StepSystem.run ClientControl.step (start context.detail)
          (makesConnection ++
            [.connected true, .next, .next, .next, .next]) =
        some
          ⟨.TCP, some .TCP, false, .idle, [.unsetRoute, .setRoute],
            none⟩ := by
    rw [detail]
    rfl
  have ready :
      Ready wiredHost context.detail (bitsOf [10, 0, 1, 7]) "10.0.0.1"
        "eth0" := by
    rw [detail]
    exact wiredHost_ready
  have routed :=
    packets_routed accepted ready
      (fun family _ => wiredRoutes_untouched family) reached
  have connected :=
    routed.between rfl rfl (List.cons_ne_nil _ _)
  simp only [detail] at connected
  exact ⟨context, _, accepted, reached, by simpa only [detail]⟩

/-! ## macOS -/

/-- Marks do not matter, as there is one table. -/
theorem osx_packets_routed
    {system : System}
    {h : YamlHelper}
    {context : Context}
    (accepted : Context.InitByFile system h {} = some context)
    {host : Osx.Host}
    {server : List Bool}
    {gateway : String}
    (ready : Osx.Ready host context.detail server gateway)
    {initial : Family → Routes}
    (untouched :
      ∀ family ∈ families context.detail,
        Osx.Untouched (initial family)
          (Osx.serverRoute server gateway family))
    {events : List ControlEvent}
    {final : ClientControl}
    (reached :
      StepSystem.run ClientControl.step (start context.detail) events =
        some final) :
    Routed context.detail (Osx.serverRoute server gateway)
      (Osx.tunnel context.detail) (fun _ => True) initial events final
      (final.actions.foldl (host.perform context.detail) initial) := by
  have bits (family : Family) :
      ∀ route ∈ Osx.serverRoute server gateway family,
        route.destination.length = family.bits := by
    cases family with
    | inet =>
        rintro route ⟨⟩
        exact ready.serverBits
    | inet6 => exact nofun
  have long (family : Family) :
      ∀ route ∈ Osx.serverRoute server gateway family,
        route.destination.length ≠ 1 := by
    intro route member
    rw [bits family route member]
    cases family <;> decide
  let Installed (family : Family) (routes : Routes) : Prop :=
    routes =
      (initial family).extend "main"
        (Osx.addedRoutes (Osx.tunnel context.detail family)
          (Osx.serverRoute server gateway family))
  let Restored (family : Family) (routes : Routes) : Prop :=
    routes = initial family
  have changes :
      Changes (host.perform context.detail) initial
        (ForFamilies context.detail initial Installed)
        (ForFamilies context.detail initial Restored) :=
    Changes.of_families ready.perform_setRoute ready.perform_unsetRoute
      (fun _ => rfl)
      (fun _ _ => rfl)
      (fun family concerned _ restored => by
        rw [restored]
        exact Osx.set_installs (untouched family concerned) (long family))
      (fun family concerned _ made =>
        Osx.unset_restores (untouched family concerned) (long family)
          made)
  refine Routed.of_changes accepted changes ?_ ?_ reached
  · rintro family concerned routes rfl mark _ address sameBits
    have nonempty : address ≠ [] := by
      rintro rfl
      cases family <;> cases sameBits
    exact
      Osx.lookup_installed (untouched family concerned) (long family) mark
        (fun route member =>
          sameBits.trans (bits family route member).symm)
        nonempty
  · rintro family _ routes rfl
    exact fun _ _ => rfl

def appleSystem : System :=
  { exampleSystem with platform := .apple }

/-- What the file is read to, and what the first device is called. -/
def appleDetail : ContextDetail :=
  { dualStackDetail with tun_if_name := "utun0" }

def appleHost : Osx.Host where
  network family text :=
    match family with
    | .inet =>
        [("10.0.1.7", bitsOf [10, 0, 1, 7]), ("0/1", [false]),
          ("128/1", [true])].lookup text
    | .inet6 => [("0000::/1", [false]), ("8000::/1", [true])].lookup text
  accepts family hop :=
    decide
      (hop = Osx.tunnel appleDetail family ∨
        (family = .inet ∧ hop = ⟨some "10.0.0.1", none⟩))
  listing :=
    some
      "   route to: default\n    gateway: 10.0.0.1\n  interface: en0\n".toList

def appleRoutes : Family → Routes
  | .inet =>
      { table name :=
          if name = "main" then
            [⟨[], ⟨some "10.0.0.1", none⟩⟩,
              ⟨bitsOf [10, 0, 0], ⟨some "link#4", none⟩⟩]
          else
            []
        rules := [⟨everything, "main", none⟩] }
  | .inet6 =>
      { table name :=
          if name = "main" then [⟨[], ⟨some "fe80::1", none⟩⟩] else []
        rules := [⟨everything, "main", none⟩] }

theorem appleHost_ready :
    Osx.Ready appleHost appleDetail (bitsOf [10, 0, 1, 7])
      "10.0.0.1" where
  serverWord := by decide
  gatewayWord := by decide
  tunWord := by decide
  tun6Word := by decide
  gatewayNoZero := by decide
  serverPlain := by decide
  notFlag := by decide
  serverBits := by decide
  resolved := by decide
  low := by decide
  high := by decide
  low6 := by decide
  high6 := by decide
  listing :=
    ⟨_, "    gateway: 10.0.0.1".toList, rfl, by decide +kernel, by decide⟩
  acceptsTunnel family := by cases family <;> decide
  acceptsServer := by decide

theorem appleRoutes_untouched (family : Family) :
    Osx.Untouched (appleRoutes family)
      (Osx.serverRoute (bitsOf [10, 0, 1, 7]) "10.0.0.1" family) := by
  cases family with
  | inet =>
      constructor
      · rfl
      · decide
      · rintro host ⟨⟩
        decide
  | inet6 =>
      constructor
      · rfl
      · decide
      · exact nofun

theorem osx_packets_routed_dualStack :
    ∃ context final,
      Context.InitByFile appleSystem dualStackFile {} = some context ∧
        StepSystem.run ClientControl.step (start context.detail)
            (makesConnection ++
              [.connected true, .next, .next, .next, .next]) =
          some final ∧
        ∀ mark,
          ThroughTunnel context.detail
            (Osx.serverRoute (bitsOf [10, 0, 1, 7]) "10.0.0.1")
            (Osx.tunnel context.detail) appleRoutes
            (final.actions.foldl (appleHost.perform context.detail)
              appleRoutes)
            mark := by
  have initialised :
      (Context.InitByFile appleSystem dualStackFile {}).map
          (fun context => context.detail) =
        some appleDetail := by
    decide +kernel
  obtain ⟨context, accepted, detail⟩ :=
    Option.map_eq_some_iff.mp initialised
  have reached :
      StepSystem.run ClientControl.step (start context.detail)
          (makesConnection ++
            [.connected true, .next, .next, .next, .next]) =
        some
          ⟨.TCP, some .TCP, false, .idle, [.unsetRoute, .setRoute],
            none⟩ := by
    rw [detail]
    rfl
  have ready :
      Osx.Ready appleHost context.detail (bitsOf [10, 0, 1, 7])
        "10.0.0.1" := by
    rw [detail]
    exact appleHost_ready
  have routed :=
    osx_packets_routed accepted ready
      (fun family _ => appleRoutes_untouched family) reached
  exact
    ⟨context, _, accepted, reached, fun mark =>
      routed.between rfl rfl (List.cons_ne_nil _ _) mark trivial⟩

end ClientControl

end Dsvpn
