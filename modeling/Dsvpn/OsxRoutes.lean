import Dsvpn.IpCommands

namespace Dsvpn

open PolicyRouting

/-!
# The routes of the client on macOS

There is one table and no rule to choose another.  A route for each half of
the addresses leads through the tunnel, in front of the default route.
-/

/-- `awk '/pattern/{print $number;exit}'` -/
def Awk.printFirst
    (pattern : List Char)
    (number : Nat)
    (input : List Char) : List Char :=
  match (Text.lines '\n' input).find? fun line =>
      decide (pattern <:+: line) with
  | some line => field number line ++ ['\n']
  | none => []

namespace Osx

open Ip

/-- `listing` is the output of `route -n get default 2>/dev/null`. -/
def GetDefaultGatewayIp
    (listing : Option (List Char)) : Except String (List Char) := do
  let output ←
    Shell.Run (listing.map (Awk.printFirst "gateway:".toList 2))
  return TrimNewline output

/-- The commands for the client's routes, in order. -/
def route_client_set_default
    (context : ContextDetail)
    (listing : Option (List Char)) :
    Except String (List (List Char)) := do
  let add_default_gw_command :=
    "route add $EXT_IP $EXT_GW_IP &> /dev/null".toList
  let add_default_gw_command2 :=
    "route add 0/1 $REMOTE_TUN_IP &> /dev/null".toList
  let add_default_gw_command3 :=
    "route add 128/1 $REMOTE_TUN_IP &> /dev/null".toList
  let add_default_gw_command :=
    replace_first add_default_gw_command "$EXT_IP"
      context.server_ip_resolved
  let gateway ← GetDefaultGatewayIp listing
  let add_default_gw_command :=
    replace_first add_default_gw_command "$EXT_GW_IP"
      (String.ofList gateway)
  let add_default_gw_command2 :=
    replace_first add_default_gw_command2 "$REMOTE_TUN_IP"
      context.remote_tun_ip
  let add_default_gw_command3 :=
    replace_first add_default_gw_command3 "$REMOTE_TUN_IP"
      context.remote_tun_ip
  let commands :=
    [add_default_gw_command, add_default_gw_command2,
      add_default_gw_command3]
  if context.ipv6 then
    let add_default_gw_command4 :=
      "route add -inet6 0000::/1 $REMOTE_TUN_IP6 &> /dev/null".toList
    let add_default_gw_command5 :=
      "route add -inet6 8000::/1 $REMOTE_TUN_IP6 &> /dev/null".toList
    let add_default_gw_command4 :=
      replace_first add_default_gw_command4 "$REMOTE_TUN_IP6"
        context.remote_tun_ip6
    let add_default_gw_command5 :=
      replace_first add_default_gw_command5 "$REMOTE_TUN_IP6"
        context.remote_tun_ip6
    return commands ++ [add_default_gw_command4, add_default_gw_command5]
  else
    return commands

/-- The commands that take the client's routes back, in order. -/
def route_client_unset_default
    (context : ContextDetail) : List (List Char) :=
  let add_default_gw_command :=
    "route delete $EXT_IP &> /dev/null".toList
  let add_default_gw_command2 := "route delete 0/1 &> /dev/null".toList
  let add_default_gw_command3 := "route delete 128/1 &> /dev/null".toList
  let add_default_gw_command :=
    replace_first add_default_gw_command "$EXT_IP"
      context.server_ip_resolved
  let commands :=
    [add_default_gw_command, add_default_gw_command2,
      add_default_gw_command3]
  if context.ipv6 then
    let add_default_gw_command4 :=
      "route delete -inet6 0000::/1 &> /dev/null".toList
    let add_default_gw_command5 :=
      "route delete -inet6 8000::/1 &> /dev/null".toList
    commands ++ [add_default_gw_command4, add_default_gw_command5]
  else
    commands

/-- The commands end with `&> /dev/null`. -/
def redirection : Redirection where
  first := "&>".toList
  rest := ["/dev/null".toList]
  redirects word := word == "&>".toList
  redirects_first := by decide
  wellFormed := by decide

abbrev words (command : List Char) : List String :=
  redirection.words command

abbrev IsWord (word : List Char) : Prop :=
  redirection.IsWord word

def quietly (words : List String) : List Char :=
  redirection.quietly words

theorem quietly_eq (words : List String) :
    quietly words =
      [' '].intercalate
        (words.map String.toList ++
          ["&>".toList, "/dev/null".toList]) :=
  rfl

/-- `network` reads an address or a network of the family. -/
def readRoute
    (network : Family → String → Option (List Bool))
    (family : Family)
    (operation : String) :
    List String → Option (Family × RouteChange)
  | [] => none
  | destination :: gateways => do
      let destination ← network family destination
      if operation = "add" then
        let gateway ← gateways.head?
        some (family, .addRoute "main" ⟨destination, ⟨some gateway, none⟩⟩)
      else if operation = "delete" then
        some (family, .deleteRoute "main" destination)
      else
        none

def readWords
    (network : Family → String → Option (List Bool)) :
    List String → Option (Family × RouteChange)
  | "route" :: operation :: "-inet6" :: words =>
      readRoute network .inet6 operation words
  | "route" :: operation :: words =>
      readRoute network .inet operation words
  | _ => none

/-- What the commands depend on. -/
structure Host where
  network : Family → String → Option (List Bool)
  accepts : Family → Hop → Bool
  listing : Option (List Char)

namespace Host

def readCommand
    (host : Host)
    (command : List Char) : Option (Family × RouteChange) :=
  unlessRefused host.accepts (readWords host.network (words command))

def perform
    (host : Host)
    (context : ContextDetail) :
    (Family → Routes) → RouteAction → Family → Routes :=
  performed host.readCommand (route_client_unset_default context)
    (route_client_set_default context host.listing)

end Host

theorem replace_last
    (search : String)
    (starts : search.toList.head? = some '$')
    {before : List Char}
    (plain : '$' ∉ before)
    (text : String) :
    replace_first
        (before ++ (search.toList ++ " &> /dev/null".toList))
        search text =
      before ++ (text.toList ++ " &> /dev/null".toList) :=
  replace_first_found search starts plain text _

theorem addServerText
    {server : String}
    (plain : '$' ∉ server.toList)
    (gateway : String) :
    replace_first
        (replace_first
          "route add $EXT_IP $EXT_GW_IP &> /dev/null".toList
          "$EXT_IP" server)
        "$EXT_GW_IP" gateway =
      quietly ["route", "add", server, gateway] := by
  have server_replaced :=
    replace_first_found "$EXT_IP" (by decide)
      (show '$' ∉ "route add ".toList by decide) server
      " $EXT_GW_IP &> /dev/null".toList
  have before : '$' ∉ "route add ".toList ++ (server.toList ++ [' ']) := by
    simp only [List.mem_append, not_or]
    exact ⟨by decide, plain, by decide⟩
  have gateway_replaced :=
    replace_last "$EXT_GW_IP" (by decide) before gateway
  have template :
      "route add $EXT_IP $EXT_GW_IP &> /dev/null".toList =
        "route add ".toList ++
          ("$EXT_IP".toList ++ " $EXT_GW_IP &> /dev/null".toList) := by
    decide +kernel
  have between :
      "route add ".toList ++
          (server.toList ++ " $EXT_GW_IP &> /dev/null".toList) =
        "route add ".toList ++ (server.toList ++ [' ']) ++
          ("$EXT_GW_IP".toList ++ " &> /dev/null".toList) := by
    simp
  rw [template, server_replaced, between, gateway_replaced]
  simp [quietly_eq, List.intercalate]

theorem addHalfTexts (context : ContextDetail) :
    (replace_first "route add 0/1 $REMOTE_TUN_IP &> /dev/null".toList
          "$REMOTE_TUN_IP" context.remote_tun_ip =
        quietly ["route", "add", "0/1", context.remote_tun_ip] ∧
      replace_first "route add 128/1 $REMOTE_TUN_IP &> /dev/null".toList
          "$REMOTE_TUN_IP" context.remote_tun_ip =
        quietly ["route", "add", "128/1", context.remote_tun_ip]) ∧
    replace_first
        "route add -inet6 0000::/1 $REMOTE_TUN_IP6 &> /dev/null".toList
        "$REMOTE_TUN_IP6" context.remote_tun_ip6 =
      quietly
        ["route", "add", "-inet6", "0000::/1", context.remote_tun_ip6] ∧
    replace_first
        "route add -inet6 8000::/1 $REMOTE_TUN_IP6 &> /dev/null".toList
        "$REMOTE_TUN_IP6" context.remote_tun_ip6 =
      quietly
        ["route", "add", "-inet6", "8000::/1",
          context.remote_tun_ip6] := by
  have low :=
    replace_last "$REMOTE_TUN_IP" (by decide)
      (show '$' ∉ "route add 0/1 ".toList by decide)
      context.remote_tun_ip
  have high :=
    replace_last "$REMOTE_TUN_IP" (by decide)
      (show '$' ∉ "route add 128/1 ".toList by decide)
      context.remote_tun_ip
  have low6 :=
    replace_last "$REMOTE_TUN_IP6" (by decide)
      (show '$' ∉ "route add -inet6 0000::/1 ".toList by decide)
      context.remote_tun_ip6
  have high6 :=
    replace_last "$REMOTE_TUN_IP6" (by decide)
      (show '$' ∉ "route add -inet6 8000::/1 ".toList by decide)
      context.remote_tun_ip6
  refine ⟨⟨?_, ?_⟩, ?_, ?_⟩
  · simpa [quietly_eq, List.intercalate] using low
  · simpa [quietly_eq, List.intercalate] using high
  · simpa [quietly_eq, List.intercalate] using low6
  · simpa [quietly_eq, List.intercalate] using high6

theorem deleteServerText (server : String) :
    replace_first "route delete $EXT_IP &> /dev/null".toList "$EXT_IP"
        server =
      quietly ["route", "delete", server] := by
  have replaced :=
    replace_last "$EXT_IP" (by decide)
      (show '$' ∉ "route delete ".toList by decide) server
  simpa [quietly_eq, List.intercalate] using replaced

theorem deleteHalfTexts :
    "route delete 0/1 &> /dev/null".toList =
        quietly ["route", "delete", "0/1"] ∧
      "route delete 128/1 &> /dev/null".toList =
        quietly ["route", "delete", "128/1"] ∧
      "route delete -inet6 0000::/1 &> /dev/null".toList =
        quietly ["route", "delete", "-inet6", "0000::/1"] ∧
      "route delete -inet6 8000::/1 &> /dev/null".toList =
        quietly ["route", "delete", "-inet6", "8000::/1"] := by
  decide +kernel

/-! ## What the two functions change -/

def tunnel (context : ContextDetail) : Family → Hop
  | .inet => ⟨some context.remote_tun_ip, none⟩
  | .inet6 => ⟨some context.remote_tun_ip6, none⟩

/-- The server has a route of its own among those for its kind of address. -/
def serverRoute
    (server : List Bool)
    (gateway : String) : Family → Option (Route Hop)
  | .inet => some ⟨server, ⟨some gateway, none⟩⟩
  | .inet6 => none

/-- The routes that are added, in order. -/
def addedRoutes
    (tunnel : Hop)
    (peer : Option (Route Hop)) : List (Route Hop) :=
  peer.toList ++ [⟨[false], tunnel⟩, ⟨[true], tunnel⟩]

/-- The commands can be read, and the new routes lead somewhere. -/
structure Ready
    (host : Host)
    (context : ContextDetail)
    (server : List Bool)
    (gateway : String) : Prop where
  serverWord : IsWord context.server_ip_resolved.toList
  gatewayWord : IsWord gateway.toList
  tunWord : IsWord context.remote_tun_ip.toList
  tun6Word : IsWord context.remote_tun_ip6.toList
  gatewayNoZero : '\x00' ∉ gateway.toList
  serverPlain : '$' ∉ context.server_ip_resolved.toList
  notFlag : context.server_ip_resolved ≠ "-inet6"
  serverBits : server.length = Family.inet.bits
  resolved : host.network .inet context.server_ip_resolved = some server
  low : host.network .inet "0/1" = some [false]
  high : host.network .inet "128/1" = some [true]
  low6 : host.network .inet6 "0000::/1" = some [false]
  high6 : host.network .inet6 "8000::/1" = some [true]
  listing :
    ∃ output line,
      host.listing = some output ∧
        ((Text.lines '\n' output).find? fun line =>
          decide ("gateway:".toList <:+: line)) = some line ∧
        Awk.field 2 line = gateway.toList
  acceptsTunnel :
    ∀ family, host.accepts family (tunnel context family) = true
  acceptsServer : host.accepts .inet ⟨some gateway, none⟩ = true

namespace Ready

variable
    {host : Host}
    {context : ContextDetail}
    {server : List Bool}
    {gateway : String}

theorem read_words
    {texts : List String}
    {entry : Family × RouteChange}
    (isWord : ∀ word ∈ texts, IsWord word.toList)
    (read : readWords host.network texts = some entry)
    (allowed : unlessRefused host.accepts (some entry) = some entry) :
    host.readCommand (quietly texts) = some entry := by
  have same : words (quietly texts) = texts :=
    redirection.words_quietly isWord
  rw [Host.readCommand, same, read, allowed]

theorem readWords_inet
    {operation destination : String}
    (notFlag : destination ≠ "-inet6")
    (network : Family → String → Option (List Bool))
    (words : List String) :
    readWords network ("route" :: operation :: destination :: words) =
      readRoute network .inet operation (destination :: words) := by
  simp [readWords, notFlag]

theorem gateway_read
    (ready : Ready host context server gateway) :
    GetDefaultGatewayIp host.listing = .ok gateway.toList := by
  obtain ⟨output, line, listing, found, isGateway⟩ := ready.listing
  have printed :
      Awk.printFirst "gateway:".toList 2 output =
        gateway.toList ++ ['\n'] := by
    rw [Awk.printFirst, found]
    exact congrArg (· ++ ['\n']) isGateway
  have noZero : '\x00' ∉ gateway.toList ++ ['\n'] := by
    rw [List.mem_append, not_or]
    exact ⟨ready.gatewayNoZero, by decide⟩
  rw [GetDefaultGatewayIp, listing, Option.map_some, printed,
    Shell.Run_eq noZero]
  exact congrArg Except.ok (TrimNewline_append _)

theorem read_addServer
    (ready : Ready host context server gateway) :
    host.readCommand
        (quietly
          ["route", "add", context.server_ip_resolved, gateway]) =
      some
        (.inet, .addRoute "main" ⟨server, ⟨some gateway, none⟩⟩) := by
  apply read_words
  · simp only [List.forall_mem_cons]
    exact
      ⟨by decide, by decide, ready.serverWord, ready.gatewayWord,
        List.forall_mem_nil _⟩
  · rw [readWords_inet ready.notFlag]
    simp [readRoute, ready.resolved]
  · exact Option.filter_some_pos ready.acceptsServer

theorem read_deleteServer
    (ready : Ready host context server gateway) :
    host.readCommand
        (quietly ["route", "delete", context.server_ip_resolved]) =
      some (.inet, .deleteRoute "main" server) := by
  apply read_words
  · simp only [List.forall_mem_cons]
    exact ⟨by decide, by decide, ready.serverWord, List.forall_mem_nil _⟩
  · rw [readWords_inet ready.notFlag]
    simp [readRoute, ready.resolved]
  · rfl

/-- A network of the other family is behind `-inet6`. -/
def networkWords (name : String) : Family → List String
  | .inet => [name]
  | .inet6 => ["-inet6", name]

theorem read_addHalf
    {family : Family}
    {name tun : String}
    {half : List Bool}
    (nameWord : IsWord name.toList)
    (tunWord : IsWord tun.toList)
    (notFlag : name ≠ "-inet6")
    (resolved : host.network family name = some half)
    (accepted : host.accepts family ⟨some tun, none⟩ = true) :
    host.readCommand
        (quietly ("route" :: "add" :: networkWords name family ++ [tun])) =
      some (family, .addRoute "main" ⟨half, ⟨some tun, none⟩⟩) := by
  apply read_words
  · cases family with
    | inet =>
        simp only [networkWords, List.cons_append, List.nil_append,
          List.forall_mem_cons]
        exact
          ⟨by decide, by decide, nameWord, tunWord, List.forall_mem_nil _⟩
    | inet6 =>
        simp only [networkWords, List.cons_append, List.nil_append,
          List.forall_mem_cons]
        exact
          ⟨by decide, by decide, by decide, nameWord, tunWord,
            List.forall_mem_nil _⟩
  · cases family with
    | inet =>
        rw [networkWords, List.cons_append, List.cons_append,
          List.singleton_append, readWords_inet notFlag]
        simp [readRoute, resolved]
    | inet6 => simp [networkWords, readWords, readRoute, resolved]
  · exact Option.filter_some_pos accepted

theorem read_deleteHalf
    {family : Family}
    {name : String}
    {half : List Bool}
    (nameWord : IsWord name.toList)
    (notFlag : name ≠ "-inet6")
    (resolved : host.network family name = some half) :
    host.readCommand
        (quietly ("route" :: "delete" :: networkWords name family)) =
      some (family, .deleteRoute "main" half) := by
  apply read_words
  · cases family with
    | inet =>
        simp only [networkWords, List.forall_mem_cons]
        exact ⟨by decide, by decide, nameWord, List.forall_mem_nil _⟩
    | inet6 =>
        simp only [networkWords, List.forall_mem_cons]
        exact
          ⟨by decide, by decide, by decide, nameWord,
            List.forall_mem_nil _⟩
  · cases family with
    | inet =>
        rw [networkWords, readWords_inet notFlag]
        simp [readRoute, resolved]
    | inet6 => simp [networkWords, readWords, readRoute, resolved]
  · rfl

theorem set_commands
    (ready : Ready host context server gateway) :
    route_client_set_default context host.listing =
      .ok
        ([quietly ["route", "add", context.server_ip_resolved, gateway],
          quietly ["route", "add", "0/1", context.remote_tun_ip],
          quietly ["route", "add", "128/1", context.remote_tun_ip]] ++
        if context.ipv6 then
          [quietly
            ["route", "add", "-inet6", "0000::/1",
              context.remote_tun_ip6],
          quietly
            ["route", "add", "-inet6", "8000::/1",
              context.remote_tun_ip6]]
        else
          []) := by
  have serverText := addServerText ready.serverPlain gateway
  rw [route_client_set_default, ready.gateway_read]
  simp only [bind, Except.bind, String.ofList_toList, serverText,
    addHalfTexts context]
  cases context.ipv6
  · rfl
  · rfl

theorem unset_commands :
    route_client_unset_default context =
      [quietly ["route", "delete", context.server_ip_resolved],
        quietly ["route", "delete", "0/1"],
        quietly ["route", "delete", "128/1"]] ++
      if context.ipv6 then
        [quietly ["route", "delete", "-inet6", "0000::/1"],
          quietly ["route", "delete", "-inet6", "8000::/1"]]
      else
        [] := by
  rw [route_client_unset_default]
  simp only [deleteServerText, deleteHalfTexts]
  cases context.ipv6
  · rfl
  · rfl

theorem read_set
    (ready : Ready host context server gateway) :
    ∃ commands,
      route_client_set_default context host.listing = .ok commands ∧
        commands.filterMap host.readCommand =
          (families context).flatMap fun family =>
            ((addedRoutes (tunnel context family)
              (serverRoute server gateway family)).map
                (Change.addRoute "main")).map (Prod.mk family) := by
  have low :=
    read_addHalf (by decide) ready.tunWord (by decide) ready.low
      (ready.acceptsTunnel .inet)
  have high :=
    read_addHalf (by decide) ready.tunWord (by decide) ready.high
      (ready.acceptsTunnel .inet)
  have low6 :=
    read_addHalf (by decide) ready.tun6Word (by decide) ready.low6
      (ready.acceptsTunnel .inet6)
  have high6 :=
    read_addHalf (by decide) ready.tun6Word (by decide) ready.high6
      (ready.acceptsTunnel .inet6)
  simp only [networkWords, List.cons_append, List.nil_append] at *
  refine ⟨_, ready.set_commands, ?_⟩
  simp only [List.filterMap_append, List.filterMap_cons,
    List.filterMap_nil, ready.read_addServer, low, high, families]
  cases context.ipv6
  · rfl
  · simp only [if_true, List.filterMap_cons, List.filterMap_nil, low6,
      high6]
    rfl

theorem read_unset
    (ready : Ready host context server gateway) :
    (route_client_unset_default context).filterMap host.readCommand =
      (families context).flatMap fun family =>
        ((addedRoutes (tunnel context family)
          (serverRoute server gateway family)).map fun route =>
            Change.deleteRoute "main" route.destination).map
              (Prod.mk family) := by
  have low := read_deleteHalf (by decide) (by decide) ready.low
  have high := read_deleteHalf (by decide) (by decide) ready.high
  have low6 := read_deleteHalf (by decide) (by decide) ready.low6
  have high6 := read_deleteHalf (by decide) (by decide) ready.high6
  simp only [networkWords] at *
  rw [unset_commands]
  simp only [List.filterMap_append, List.filterMap_cons,
    List.filterMap_nil, ready.read_deleteServer, low, high, families]
  cases context.ipv6
  · rfl
  · simp only [if_true, List.filterMap_cons, List.filterMap_nil, low6,
      high6]
    rfl

theorem perform_setRoute
    (ready : Ready host context server gateway)
    (routes : Family → Routes)
    (family : Family) :
    host.perform context routes .setRoute family =
      if family ∈ families context then
        ((addedRoutes (tunnel context family)
          (serverRoute server gateway family)).map
            (Change.addRoute "main")).foldl
              Routing.apply (routes family)
      else
        routes family := by
  obtain ⟨commands, set, read⟩ := ready.read_set
  rw [Host.perform, set, performed]
  exact foldl_families read routes family

theorem perform_unsetRoute
    (ready : Ready host context server gateway)
    (routes : Family → Routes)
    (family : Family) :
    host.perform context routes .unsetRoute family =
      if family ∈ families context then
        ((addedRoutes (tunnel context family)
          (serverRoute server gateway family)).map fun route =>
            Change.deleteRoute "main" route.destination).foldl
              Routing.apply (routes family)
      else
        routes family :=
  foldl_families ready.read_unset routes family

end Ready

/-- The main table is the only one, and has no such routes. -/
structure Untouched
    (base : Routes)
    (peer : Option (Route Hop)) : Prop where
  rules : base.rules = [⟨⟨false, none⟩, "main", none⟩]
  halves :
    ∀ other ∈ base.table "main", other.destination.length ≠ 1
  main :
    ∀ host ∈ peer, ∀ other ∈ base.table "main",
      other.destination ≠ host.destination

section

variable
    {base routes : Routes}
    {tunnel : Hop}
    {peer : Option (Route Hop)}

theorem distinct_addedRoutes
    (long : ∀ host ∈ peer, host.destination.length ≠ 1) :
    ((addedRoutes tunnel peer).map Route.destination).Nodup := by
  cases peer with
  | none => simp [addedRoutes]
  | some host =>
      have long := long host rfl
      have notLow : host.destination ≠ [false] := by
        intro same
        rw [same] at long
        exact long rfl
      have notHigh : host.destination ≠ [true] := by
        intro same
        rw [same] at long
        exact long rfl
      simp [addedRoutes, notLow, notHigh]

theorem Untouched.absent
    (untouched : Untouched base peer) :
    ∀ route ∈ addedRoutes tunnel peer,
      ∀ other ∈ base.table "main",
        other.destination ≠ route.destination := by
  intro route member other isOther same
  rw [addedRoutes, List.mem_append] at member
  rcases member with isPeer | isHalf
  · exact
      untouched.main route (Option.mem_toList.mp isPeer) other isOther same
  · refine untouched.halves other isOther ?_
    rw [same]
    rcases List.mem_pair.mp isHalf with rfl | rfl
    · rfl
    · rfl

theorem set_installs
    (untouched : Untouched base peer)
    (long : ∀ host ∈ peer, host.destination.length ≠ 1) :
    ((addedRoutes tunnel peer).map (Change.addRoute "main")).foldl
        Routing.apply base =
      base.extend "main" (addedRoutes tunnel peer) :=
  foldl_addRoute (distinct_addedRoutes long) untouched.absent

theorem unset_restores
    (untouched : Untouched base peer)
    (long : ∀ host ∈ peer, host.destination.length ≠ 1)
    (made :
      routes = base.extend "main" (addedRoutes tunnel peer) ∨
        routes = base) :
    ((addedRoutes tunnel peer).map fun route =>
        Change.deleteRoute "main" route.destination).foldl
          Routing.apply routes =
      base := by
  have distinct : ((addedRoutes tunnel peer).map Route.destination).Nodup :=
    distinct_addedRoutes long
  rcases made with rfl | rfl
  · exact foldl_deleteRoute distinct untouched.absent (.inl rfl)
  · have deleted :=
      foldl_deleteRoute distinct untouched.absent (.inr rfl)
    rwa [extend_nil] at deleted

theorem lookup_installed
    (untouched : Untouched base peer)
    (long : ∀ host ∈ peer, host.destination.length ≠ 1)
    (mark : Nat)
    {address : List Bool}
    (sameLength :
      ∀ host ∈ peer, address.length = host.destination.length)
    (nonempty : address ≠ []) :
    lookup Selector.selects
        (base.extend "main" (addedRoutes tunnel peer)) mark address =
      some (throughTunnel (base.table "main") peer tunnel address) := by
  have notOne :
      ∀ other ∈ base.table "main" ++ peer.toList,
        other.destination.length ≠ 1 := by
    intro other member
    rcases List.mem_append.mp member with isOther | isPeer
    · exact untouched.halves other isOther
    · exact long other (Option.mem_toList.mp isPeer)
  have found :
      (best (base.table "main" ++ addedRoutes tunnel peer) address).map
          Route.hop =
        some (throughTunnel (base.table "main") peer tunnel address) := by
    rw [addedRoutes, ← List.append_assoc,
      best_append_halves notOne nonempty,
      specific_getD untouched.main sameLength nonempty]
  have only :
      lookup Selector.selects
          (base.extend "main" (addedRoutes tunnel peer)) mark address =
        (best (base.table "main" ++ addedRoutes tunnel peer) address).map
          Route.hop := by
    have rules :
        (base.extend "main" (addedRoutes tunnel peer)).rules =
          [⟨⟨false, none⟩, "main", none⟩] :=
      untouched.rules
    rw [lookup, rules, List.findSome?_cons, List.findSome?_nil,
      extend_table]
    simp only [Selector.selects, bestAbove, Bool.true_bne, Bool.not_false,
      if_true]
    cases best (base.table "main" ++ addedRoutes tunnel peer) address with
    | none => rfl
    | some route => rfl
  rw [only, found]

end

end Osx

end Dsvpn
