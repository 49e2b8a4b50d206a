import Dsvpn.IpCommands

namespace Dsvpn

open PolicyRouting

/-!
# The routes of the client

On Linux the tunnel is the default route of a table of its own.  Two rules
send everything there for which the main table has no route but its default
one; the server gets a route of its own in the main table.
-/

namespace Ip

def everything : Selector := ⟨false, none⟩

def unmarked : Selector := ⟨true, some 42069⟩

def tunnelRule : Rule Selector String := ⟨unmarked, "42069", none⟩

def specificRule : Rule Selector String := ⟨everything, "main", some 0⟩

/-- The server has no route of its own where it has no address. -/
def setChanges
    (tunnel : Hop)
    (peer : Option (Route Hop)) : List RouteChange :=
  [.addRoute "42069" ⟨[], tunnel⟩] ++
    (peer.toList.map fun host => .addRoute "main" host) ++
    [.addRule tunnelRule, .addRule specificRule]

def unsetChanges (peer : Option (Route Hop)) : List RouteChange :=
  [.deleteRule "42069" none] ++
    (peer.toList.map fun host => .deleteRoute "main" host.destination) ++
    [.deleteRule "main" (some 0)]

/-- More routes in two of the tables, and more rules. -/
def extended
    (base : Routes)
    (own main : List (Route Hop))
    (rules : List (Rule Selector String)) : Routes where
  table name :=
    if name = "42069" then own
    else if name = "main" then base.table "main" ++ main
    else base.table name
  rules := rules ++ base.rules

/-- Nobody else has made what the commands make. -/
structure Untouched
    (base : Routes)
    (peer : Option (Route Hop)) : Prop where
  own : base.table "42069" = []
  rules :
    ∀ rule ∈ base.rules,
      ¬ rule.Fits "42069" none ∧ ¬ rule.Fits "main" (some 0)
  main :
    ∀ host ∈ peer, ∀ other ∈ base.table "main",
      other.destination ≠ host.destination

/-- What the commands may have left there, whole or in part. -/
def Made
    (base : Routes)
    (tunnel : Hop)
    (peer : Option (Route Hop))
    (routes : Routes) : Prop :=
  ∃ own main rules,
    (own = [] ∨ own = [⟨[], tunnel⟩]) ∧
      (main = [] ∨ main = peer.toList) ∧
      (rules = [] ∨ rules = [specificRule, tunnelRule]) ∧
      routes = extended base own main rules

def Installed
    (base : Routes)
    (tunnel : Hop)
    (peer : Option (Route Hop))
    (routes : Routes) : Prop :=
  routes =
    extended base [⟨[], tunnel⟩] peer.toList [specificRule, tunnelRule]

/-- The table of the tunnel is not emptied. -/
def Restored
    (base : Routes)
    (tunnel : Hop)
    (routes : Routes) : Prop :=
  ∃ own, (own = [] ∨ own = [⟨[], tunnel⟩]) ∧
    routes = extended base own [] []

section

variable
    {base : Routes}
    {own main : List (Route Hop)}
    {rules : List (Rule Selector String)}
    {tunnel : Hop}
    {peer : Option (Route Hop)}

@[simp] theorem extended_own :
    (extended base own main rules).table "42069" = own :=
  rfl

@[simp] theorem extended_main :
    (extended base own main rules).table "main" =
      base.table "main" ++ main :=
  rfl

theorem update_own (routes : List (Route Hop)) :
    { extended base own main rules with
      table :=
        Function.update (extended base own main rules).table "42069"
          routes } =
      extended base routes main rules := by
  have tables :
      Function.update (extended base own main rules).table "42069"
          routes =
        (extended base routes main rules).table := by
    funext name
    by_cases isOwn : name = "42069"
    · rw [isOwn, Function.update_self, extended_own]
    · rw [Function.update_of_ne isOwn]
      simp only [extended, if_neg isOwn]
  rw [tables]
  rfl

theorem update_main (routes : List (Route Hop)) :
    { extended base own main rules with
      table :=
        Function.update (extended base own main rules).table "main"
          (base.table "main" ++ routes) } =
      extended base own routes rules := by
  have tables :
      Function.update (extended base own main rules).table "main"
          (base.table "main" ++ routes) =
        (extended base own routes rules).table := by
    funext name
    by_cases isMain : name = "main"
    · rw [isMain, Function.update_self, extended_main]
    · rw [Function.update_of_ne isMain]
      simp only [extended, if_neg isMain]
  rw [tables]
  rfl

theorem add_own
    (known : own = [] ∨ own = [⟨[], tunnel⟩]) :
    (extended base own main rules).apply
        (.addRoute "42069" ⟨[], tunnel⟩) =
      extended base [⟨[], tunnel⟩] main rules := by
  rcases known with rfl | rfl
  · rw [apply_addRoute (by simp), extended_own]
    exact update_own _
  · exact apply_addRoute_again (by simp)

theorem add_main
    {host : Route Hop}
    (absent :
      ∀ other ∈ base.table "main",
        other.destination ≠ host.destination) :
    (extended base own [] rules).apply (.addRoute "main" host) =
      extended base own [host] rules := by
  rw [apply_addRoute (by simpa using absent), extended_main,
    List.append_nil]
  exact update_main _

theorem delete_main
    {host : Route Hop}
    (absent :
      ∀ other ∈ base.table "main",
        other.destination ≠ host.destination)
    (known : main = [] ∨ main = [host]) :
    (extended base own main rules).apply
        (.deleteRoute "main" host.destination) =
      extended base own [] rules := by
  have added :
      (extended base own main rules).table "main" =
            base.table "main" ++ host :: [] ∧
          host.destination = host.destination ∨
        (extended base own main rules).table "main" =
          base.table "main" ++ [] := by
    rcases known with rfl | rfl
    · exact .inr (by simp)
    · exact .inl ⟨rfl, rfl⟩
  rw [apply_deleteRoute absent (by simp) added]
  exact update_main []

theorem delete_tunnelRule
    (untouched : Untouched base peer)
    (known : rules = [] ∨ rules = [specificRule, tunnelRule]) :
    (extended base own main rules).apply (.deleteRule "42069" none) =
      extended base own main (rules.take 1) := by
  have absent :
      ∀ rule ∈ base.rules, ¬ rule.Fits "42069" none :=
    fun rule member => (untouched.rules rule member).1
  rcases known with rfl | rfl
  · have others :
        ∀ rule ∈ ([] : List (Rule Selector String)),
          ¬ rule.Fits "42069" none := by
      simp
    have added :
        (extended base own main []).rules =
              [] ++ tunnelRule :: base.rules ∧
            tunnelRule.Fits "42069" none ∨
          (extended base own main []).rules = [] ++ base.rules :=
      .inr rfl
    exact apply_deleteRule others absent added
  · have others :
        ∀ rule ∈ [specificRule], ¬ rule.Fits "42069" none := by
      decide
    exact apply_deleteRule others absent (.inl ⟨rfl, by decide⟩)

theorem delete_specificRule
    (untouched : Untouched base peer)
    (known : rules = [] ∨ rules = [specificRule]) :
    (extended base own main rules).apply (.deleteRule "main" (some 0)) =
      extended base own main [] := by
  have absent :
      ∀ rule ∈ base.rules, ¬ rule.Fits "main" (some 0) :=
    fun rule member => (untouched.rules rule member).2
  have others :
      ∀ rule ∈ ([] : List (Rule Selector String)),
        ¬ rule.Fits "main" (some 0) := by
    simp
  have added :
      (extended base own main rules).rules =
            [] ++ specificRule :: base.rules ∧
          specificRule.Fits "main" (some 0) ∨
        (extended base own main rules).rules = [] ++ base.rules := by
    rcases known with rfl | rfl
    · exact .inr rfl
    · exact .inl ⟨rfl, by decide⟩
  exact apply_deleteRule others absent added

theorem Untouched.restored
    (untouched : Untouched base peer) :
    Restored base tunnel base := by
  have tables : base.table = (extended base [] [] []).table := by
    funext name
    by_cases isOwn : name = "42069"
    · rw [isOwn, untouched.own, extended_own]
    · by_cases isMain : name = "main"
      · rw [isMain, extended_main, List.append_nil]
      · simp only [extended, if_neg isOwn, if_neg isMain]
  refine ⟨[], .inl rfl, ?_⟩
  calc
    base = { base with table := (extended base [] [] []).table } := by
      rw [← tables]
    _ = extended base [] [] [] := rfl

theorem Restored.made
    {routes : Routes}
    (restored : Restored base tunnel routes) :
    Made base tunnel peer routes := by
  obtain ⟨own, known, same⟩ := restored
  exact ⟨own, [], [], known, .inl rfl, .inl rfl, same⟩

theorem Installed.made
    {routes : Routes}
    (installed : Installed base tunnel peer routes) :
    Made base tunnel peer routes :=
  ⟨_, _, _, .inr rfl, .inr rfl, .inr rfl, installed⟩

theorem set_installs
    {routes : Routes}
    (untouched : Untouched base peer)
    (restored : Restored base tunnel routes) :
    Installed base tunnel peer
      ((setChanges tunnel peer).foldl Routing.apply routes) := by
  obtain ⟨own, known, rfl⟩ := restored
  rw [Installed, setChanges, List.foldl_append, List.foldl_append]
  simp only [List.foldl_cons, List.foldl_nil]
  rw [add_own known]
  cases peer with
  | none => rfl
  | some host =>
      have added :
          (extended base [⟨[], tunnel⟩] [] []).apply
              (.addRoute "main" host) =
            extended base [⟨[], tunnel⟩] [host] [] :=
        add_main (untouched.main host rfl)
      simp only [Option.toList_some, List.map_cons, List.map_nil,
        List.foldl_cons, List.foldl_nil, added]
      rfl

theorem unset_restores
    {routes : Routes}
    (untouched : Untouched base peer)
    (made : Made base tunnel peer routes) :
    Restored base tunnel
      ((unsetChanges peer).foldl Routing.apply routes) := by
  obtain ⟨own, main, rules, known_own, known_main, known_rules, rfl⟩ := made
  refine ⟨own, known_own, ?_⟩
  have remaining :
      rules.take 1 = [] ∨ rules.take 1 = [specificRule] := by
    rcases known_rules with rfl | rfl
    · exact .inl rfl
    · exact .inr rfl
  rw [unsetChanges, List.foldl_append, List.foldl_append]
  simp only [List.foldl_cons, List.foldl_nil]
  rw [delete_tunnelRule untouched known_rules]
  cases peer with
  | none =>
      obtain rfl : main = [] := by simpa using known_main
      exact delete_specificRule untouched remaining
  | some host =>
      have deleted :
          (extended base own main (rules.take 1)).apply
              (.deleteRoute "main" host.destination) =
            extended base own [] (rules.take 1) :=
        delete_main (untouched.main host rfl) known_main
      simp only [Option.toList_some, List.map_cons, List.map_nil,
        List.foldl_cons, List.foldl_nil, deleted]
      exact delete_specificRule untouched remaining

theorem lookup_restored
    {routes : Routes}
    (untouched : Untouched base peer)
    (restored : Restored base tunnel routes)
    (mark : Nat)
    (address : List Bool) :
    lookup Selector.selects routes mark address =
      lookup Selector.selects base mark address := by
  obtain ⟨own, _, rfl⟩ := restored
  have sameRules : (extended base own [] []).rules = base.rules := rfl
  refine lookup_congr sameRules ?_ mark address
  intro rule member
  have notOwn : rule.table ≠ "42069" :=
    fun isOwn =>
      (untouched.rules rule member).1 ⟨isOwn, fun given => by cases given⟩
  by_cases isMain : rule.table = "main"
  · rw [isMain, extended_main, List.append_nil]
  · simp only [extended, if_neg notOwn, if_neg isMain]

theorem lookup_installed
    {routes : Routes}
    (untouched : Untouched base peer)
    (installed : Installed base tunnel peer routes)
    {mark : Nat}
    (isUnmarked : mark ≠ 42069)
    {address : List Bool}
    (sameLength :
      ∀ host ∈ peer, address.length = host.destination.length)
    (nonempty : address ≠ []) :
    lookup Selector.selects routes mark address =
      some (throughTunnel (base.table "main") peer tunnel address) := by
  have selected : unmarked.selects mark = true := by
    simpa [unmarked, Selector.selects] using isUnmarked
  rw [installed, lookup_two_rules rfl rfl selected rfl, extended_main,
    specific_getD untouched.main sameLength nonempty]

end

/-- The commands can be read, and the new routes lead somewhere. -/
structure Ready
    (host : Host)
    (context : ContextDetail)
    (server : List Bool)
    (gateway interface : String) : Prop where
  serverWord : IsWord context.server_ip_resolved.toList
  tunWord : IsWord context.tun_if_name.toList
  gatewayWord : IsWord gateway.toList
  interfaceWord : IsWord interface.toList
  serverBits : server.length = Family.inet.bits
  serverPlain : '$' ∉ context.server_ip_resolved.toList
  gatewayPlain : '$' ∉ gateway.toList
  notDefault : context.server_ip_resolved ≠ "default"
  resolved : host.address context.server_ip_resolved = some (.inet, server)
  listing :
    ∃ route : DefaultRoute,
      host.listing = some (DefaultRoute.listing [route]) ∧
        route.words[1]? = some gateway.toList ∧
        route.words[3]? = some interface.toList
  acceptsTunnel :
    ∀ family, host.accepts family ⟨none, some context.tun_if_name⟩ = true
  acceptsServer :
    host.accepts .inet ⟨some gateway, some interface⟩ = true

/-- The server has a route of its own among those for its kind of address. -/
def serverRoute
    (server : List Bool)
    (gateway interface : String) : Family → Option (Route Hop)
  | .inet => some ⟨server, ⟨some gateway, some interface⟩⟩
  | .inet6 => none

namespace Ready

variable
    {host : Host}
    {context : ContextDetail}
    {server : List Bool}
    {gateway interface : String}

theorem read_tunnel
    (ready : Ready host context server gateway interface)
    (family : Family) :
    host.readCommand
        (quietly
          (program family ++ "route" :: "add" :: tunnelWords context)) =
      some
        (family,
          .addRoute "42069" ⟨[], ⟨none, some context.tun_if_name⟩⟩) := by
  apply readCommand_quietly
  · simp only [tunnelWords, List.forall_mem_cons]
    exact
      ⟨by decide, by decide, by decide, by decide, ready.tunWord,
        by decide, by decide, List.forall_mem_nil _⟩
  · rw [readWords_route]
    simp [readRoute, tunnelWords, valueOf]
  · exact Option.filter_some_pos (ready.acceptsTunnel family)

theorem read_server
    (ready : Ready host context server gateway interface) :
    host.readCommand
        (quietly
          (program .inet ++
            "route" :: "add" :: serverWords context gateway interface)) =
      some
        (.inet,
          .addRoute "main" ⟨server, ⟨some gateway, some interface⟩⟩) := by
  apply readCommand_quietly
  · simp only [serverWords, List.forall_mem_cons]
    exact
      ⟨by decide, by decide, ready.serverWord, by decide,
        ready.gatewayWord, by decide, ready.interfaceWord,
        List.forall_mem_nil _⟩
  · rw [readWords_route]
    simp [readRoute, serverWords, valueOf, ready.notDefault,
      ready.resolved]
  · exact Option.filter_some_pos ready.acceptsServer

theorem read_deleteServer
    (ready : Ready host context server gateway interface) :
    host.readCommand
        (quietly
          (program .inet ++
            ["route", "del", context.server_ip_resolved])) =
      some (.inet, .deleteRoute "main" server) := by
  apply readCommand_quietly
  · simp only [List.forall_mem_cons]
    exact ⟨by decide, by decide, ready.serverWord, List.forall_mem_nil _⟩
  · rw [readWords_route]
    simp [readRoute, valueOf, ready.notDefault, ready.resolved]
  · rfl

theorem read_rule
    {operation : String}
    {texts : List String}
    {entry : RouteChange}
    (isWord : ∀ word ∈ "rule" :: operation :: texts, IsWord word.toList)
    (family : Family)
    (read : readRule family operation texts = some (family, entry))
    (allowed :
      unlessRefused host.accepts (some (family, entry)) =
        some (family, entry)) :
    host.readCommand
        (quietly (program family ++ "rule" :: operation :: texts)) =
      some (family, entry) := by
  apply readCommand_quietly isWord
  · rw [readWords_rule, read]
  · exact allowed

theorem listing_read
    (ready : Ready host context server gateway interface) :
    Router.GetDefaultGatewayIp host.listing = .ok gateway.toList ∧
      Router.GetDefaultInterfaceName host.listing =
        .ok interface.toList := by
  obtain ⟨route, listing, via, dev⟩ := ready.listing
  have isGateway : route.field 3 = gateway.toList :=
    (DefaultRoute.field_eq_iff ready.gatewayWord.nonempty).mpr via
  have isInterface : route.field 5 = interface.toList :=
    (DefaultRoute.field_eq_iff ready.interfaceWord.nonempty).mpr dev
  rw [listing, ← isGateway, ← isInterface]
  exact
    ⟨DefaultRoute.read_single 3 route, DefaultRoute.read_single 5 route⟩

theorem set_commands
    (ready : Ready host context server gateway interface) :
    Router.SetClientDefaultRoute context host.listing =
      .ok
        ([quietly
            (program .inet ++ "route" :: "add" :: tunnelWords context),
          quietly
            (program .inet ++
              "route" :: "add" :: serverWords context gateway interface),
          quietly (program .inet ++ "rule" :: "add" :: tunnelRuleWords),
          quietly (program .inet ++ "rule" :: "add" :: specificRuleWords)] ++
        if context.ipv6 then
          [quietly
            (program .inet6 ++ "route" :: "add" :: tunnelWords context),
          quietly (program .inet6 ++ "rule" :: "add" :: tunnelRuleWords),
          quietly (program .inet6 ++ "rule" :: "add" :: specificRuleWords)]
        else
          []) := by
  obtain ⟨gatewayRead, interfaceRead⟩ := ready.listing_read
  have replaced :=
    replace_routeToServer ready.serverPlain ready.gatewayPlain interface
  rw [Router.SetClientDefaultRoute, route_client_set_default, gatewayRead,
    interfaceRead]
  simp only [bind, Except.bind, String.ofList_toList, replaced,
    tunnelText, tunnelText6, serverText, addRuleTexts]
  cases context.ipv6
  · rfl
  · rfl

theorem unset_commands :
    Router.UnsetClientDefaultRoute context =
      [quietly (program .inet ++ "rule" :: "delete" :: ["table", "42069"]),
        quietly
          (program .inet ++
            ["route", "del", context.server_ip_resolved]),
        quietly
          (program .inet ++ "rule" :: "delete" :: specificRuleWords)] ++
      if context.ipv6 then
        [quietly
            (program .inet6 ++ "rule" :: "delete" :: ["table", "42069"]),
          quietly
            (program .inet6 ++ "rule" :: "delete" :: specificRuleWords)]
      else
        [] := by
  rw [Router.UnsetClientDefaultRoute, route_client_unset_default]
  simp only [deleteServerText, deleteRuleTexts]
  cases context.ipv6
  · rfl
  · rfl

theorem read_addTunnelRule (family : Family) :
    host.readCommand
        (quietly (program family ++ "rule" :: "add" :: tunnelRuleWords)) =
      some (family, .addRule tunnelRule) :=
  read_rule (by decide) family (by cases family <;> decide +kernel) rfl

theorem read_addSpecificRule (family : Family) :
    host.readCommand
        (quietly
          (program family ++ "rule" :: "add" :: specificRuleWords)) =
      some (family, .addRule specificRule) :=
  read_rule (by decide) family (by cases family <;> decide +kernel) rfl

theorem read_deleteTunnelRule (family : Family) :
    host.readCommand
        (quietly
          (program family ++ "rule" :: "delete" :: ["table", "42069"])) =
      some (family, .deleteRule "42069" none) :=
  read_rule (by decide) family (by cases family <;> decide +kernel) rfl

theorem read_deleteSpecificRule (family : Family) :
    host.readCommand
        (quietly
          (program family ++ "rule" :: "delete" :: specificRuleWords)) =
      some (family, .deleteRule "main" (some 0)) :=
  read_rule (by decide) family (by cases family <;> decide +kernel) rfl

theorem read_set
    (ready : Ready host context server gateway interface) :
    ∃ commands,
      Router.SetClientDefaultRoute context host.listing = .ok commands ∧
        commands.filterMap host.readCommand =
          (families context).flatMap fun family =>
            (setChanges ⟨none, some context.tun_if_name⟩
              (serverRoute server gateway interface family)).map
                (Prod.mk family) := by
  refine ⟨_, ready.set_commands, ?_⟩
  simp only [List.filterMap_append, List.filterMap_cons,
    List.filterMap_nil, ready.read_tunnel, ready.read_server,
    read_addTunnelRule, read_addSpecificRule, families]
  cases context.ipv6
  · rfl
  · simp only [if_true, List.filterMap_cons, List.filterMap_nil,
      ready.read_tunnel, read_addTunnelRule, read_addSpecificRule]
    rfl

theorem read_unset
    (ready : Ready host context server gateway interface) :
    (Router.UnsetClientDefaultRoute context).filterMap
        host.readCommand =
      (families context).flatMap fun family =>
        (unsetChanges (serverRoute server gateway interface family)).map
          (Prod.mk family) := by
  rw [unset_commands]
  simp only [List.filterMap_append, List.filterMap_cons,
    List.filterMap_nil, ready.read_deleteServer, read_deleteTunnelRule,
    read_deleteSpecificRule, families]
  cases context.ipv6
  · rfl
  · simp only [if_true, List.filterMap_cons, List.filterMap_nil,
      read_deleteTunnelRule, read_deleteSpecificRule]
    rfl

theorem perform_setRoute
    (ready : Ready host context server gateway interface)
    (routes : Family → Routes)
    (family : Family) :
    host.perform context routes .setRoute family =
      if family ∈ families context then
        (setChanges ⟨none, some context.tun_if_name⟩
          (serverRoute server gateway interface family)).foldl
            Routing.apply (routes family)
      else
        routes family := by
  obtain ⟨commands, set, read⟩ := ready.read_set
  rw [Host.perform, set, performed]
  exact foldl_families read routes family

theorem perform_unsetRoute
    (ready : Ready host context server gateway interface)
    (routes : Family → Routes)
    (family : Family) :
    host.perform context routes .unsetRoute family =
      if family ∈ families context then
        (unsetChanges (serverRoute server gateway interface family)).foldl
          Routing.apply (routes family)
      else
        routes family :=
  foldl_families ready.read_unset routes family

end Ready

end Ip

end Dsvpn
