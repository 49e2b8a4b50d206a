import Dsvpn.FirewallRules

namespace Dsvpn

/-!
# The default route

On Linux the gateway and the interface of the default route are words of the
output of `ip route show default`.  `awk` prints one word of each line, the
pipe is read in pieces, and one newline is removed.
-/

/-- `rfind` of a character in the whole string. -/
def rfind (char : Char) (str : List Char) : Option Nat :=
  (str.reverse.findIdx? (· == char)).map fun behind =>
    str.length - 1 - behind

def TrimNewline (str : List Char) : List Char :=
  let len := str.length
  if len ≤ 0 then
    str
  else if str[len - 1]? = some '\n' then
    match rfind '\n' str with
    | some pos => str.eraseIdx pos
    | none => str
  else
    str

namespace Shell

/-- At most `room` characters, and none behind a newline. -/
def readLine : Nat → List Char → List Char × List Char
  | 0, stream => ([], stream)
  | _ + 1, [] => ([], [])
  | room + 1, char :: stream =>
      if char = '\n' then
        ([char], stream)
      else
        let (line, rest) := readLine room stream
        (char :: line, rest)

/-- One byte of the buffer is left for the zero byte. -/
def fgets (size : Nat) (stream : List Char) :
    Option (List Char × List Char) :=
  if stream = [] then none else some (readLine (size - 1) stream)

/-- What `+=` appends of a buffer. -/
def data (buffer : List Char) : List Char :=
  buffer.takeWhile (· != '\x00')

/-- The loop of `Shell::Run`. -/
def readPipe : Nat → List Char → List Char → List Char
  | 0, _, result => result
  | fuel + 1, stream, result =>
      match fgets 128 stream with
      | none => result
      | some (buffer, stream) =>
          readPipe fuel stream (result ++ data buffer)

/-- There is no pipe where `popen` fails; each `fgets` takes a character. -/
def Run (pipe : Option (List Char)) : Except String (List Char) :=
  match pipe with
  | none => .error "popen() failed!"
  | some output => .ok (readPipe (output.length + 1) output [])

end Shell

namespace Awk

def isBlank (char : Char) : Bool :=
  char == ' ' || char == '\t' || char == '\n'

/-- The field is empty in a line with fewer fields. -/
def field (number : Nat) (line : List Char) : List Char :=
  ((Text.words isBlank line)[number - 1]?).getD []

/-- `awk '/pattern/{print $number}'` -/
def print (pattern : List Char) (number : Nat) (input : List Char) :
    List Char :=
  ((Text.lines '\n' input).filter fun line => pattern <:+: line).flatMap
    fun line => field number line ++ ['\n']

end Awk

namespace Router

/--
One field of the lines of `ip route show default 2>/dev/null`.  The listing is
missing where the pipe is.
-/
def readDefault (number : Nat) (listing : Option (List Char)) :
    Except String (List Char) := do
  let output ←
    Shell.Run (listing.map (Awk.print "default".toList number))
  return TrimNewline output

def GetDefaultGatewayIp : Option (List Char) → Except String (List Char) :=
  readDefault 3

def GetDefaultInterfaceName :
    Option (List Char) → Except String (List Char) :=
  readDefault 5

end Router

/-- An attribute such as `via GATEWAY`, `metric 100` or `onlink`. -/
structure RouteAttribute where
  name : List Char
  values : List (List Char)

def RouteAttribute.words (entry : RouteAttribute) : List (List Char) :=
  entry.name :: entry.values

/-- A line of the listing, without its newline. -/
structure DefaultRoute where
  line : List Char
  attributes : List RouteAttribute
  oneLine : '\n' ∉ line
  noZero : '\x00' ∉ line
  printed :
    Text.words Awk.isBlank line =
      "default".toList :: attributes.flatMap RouteAttribute.words

namespace DefaultRoute

/-- The words behind `default`. -/
def words (route : DefaultRoute) : List (List Char) :=
  route.attributes.flatMap RouteAttribute.words

/-- The value of the first attribute with the name. -/
def wordAfter (route : DefaultRoute) (name : String) :
    Option (List Char) :=
  (route.attributes.find? (·.name = name.toList)).bind (·.values.head?)

/-- What `ip route show default` prints. -/
def listing (routes : List DefaultRoute) : List Char :=
  (routes.map (·.line)).flatMap (· ++ ['\n'])

end DefaultRoute

namespace Shell

theorem readLine_append (room : Nat) (stream : List Char) :
    (readLine room stream).1 ++ (readLine room stream).2 = stream := by
  induction room generalizing stream with
  | zero => rfl
  | succ room inductionHypothesis =>
      cases stream with
      | nil => rfl
      | cons char stream =>
          rw [readLine]
          split
          · rfl
          · exact congrArg (char :: ·) (inductionHypothesis stream)

theorem readLine_shorter
    {room : Nat}
    {stream : List Char}
    (space : 0 < room)
    (more : stream ≠ []) :
    (readLine room stream).2.length < stream.length := by
  cases room with
  | zero => exact absurd space (Nat.lt_irrefl 0)
  | succ room =>
      cases stream with
      | nil => exact (more rfl).elim
      | cons char stream =>
          have whole :=
            congrArg List.length (readLine_append room stream)
          rw [List.length_append] at whole
          rw [readLine]
          split
          · exact Nat.lt_succ_self _
          · simp only [List.length_cons]
            omega

theorem data_eq
    {buffer : List Char}
    (noZero : '\x00' ∉ buffer) :
    data buffer = buffer := by
  have others : ∀ char ∈ buffer, (char != '\x00') = true := by
    intro char member
    rw [bne_iff_ne]
    rintro rfl
    exact noZero member
  have whole : data (buffer ++ []) = buffer ++ [] :=
    List.takeWhile_append_of_pos others
  rwa [List.append_nil] at whole

theorem readPipe_eq
    {fuel : Nat}
    {stream : List Char}
    (enough : stream.length ≤ fuel)
    (noZero : '\x00' ∉ stream)
    (result : List Char) :
    readPipe fuel stream result = result ++ stream := by
  induction fuel generalizing stream result with
  | zero =>
      rw [List.length_eq_zero_iff.mp (Nat.le_zero.mp enough)]
      exact (List.append_nil result).symm
  | succ fuel inductionHypothesis =>
      rw [readPipe, fgets]
      by_cases ended : stream = []
      · rw [if_pos ended, ended, List.append_nil]
      · have whole := readLine_append (128 - 1) stream
        have shorter :=
          readLine_shorter (show 0 < 128 - 1 by decide) ended
        rw [if_neg ended]
        rw [← whole, List.mem_append, not_or] at noZero
        simp only []
        rw [data_eq noZero.1,
          inductionHypothesis (by omega) noZero.2, List.append_assoc,
          whole]

theorem Run_eq
    {output : List Char}
    (noZero : '\x00' ∉ output) :
    Run (some output) = .ok output := by
  rw [Run, readPipe_eq (Nat.le_succ _) noZero, List.nil_append]

end Shell

theorem TrimNewline_append (text : List Char) :
    TrimNewline (text ++ ['\n']) = text := by
  have last : rfind '\n' (text ++ ['\n']) = some text.length := by
    simp [rfind, List.findIdx?_cons]
  have nonempty : ¬ (text ++ ['\n']).length ≤ 0 := by
    simp
  have ends :
      (text ++ ['\n'])[(text ++ ['\n']).length - 1]? = some '\n' := by
    simp
  rw [TrimNewline]
  simp only [if_neg nonempty, if_pos ends, last]
  rw [List.eraseIdx_append_of_length_le (Nat.le_refl _), Nat.sub_self]
  exact List.append_nil text

namespace DefaultRoute

/-- The fields of the line, the first of which is `default`. -/
def field (number : Nat) (route : DefaultRoute) : List Char :=
  (("default".toList :: route.words)[number - 1]?).getD []

variable {route : DefaultRoute}

theorem field_line (number : Nat) :
    Awk.field number route.line = route.field number := by
  rw [Awk.field, route.printed]
  rfl

theorem word_isInfix
    {word : List Char}
    (member : word ∈ "default".toList :: route.words) :
    word <:+: route.line :=
  Text.infix_of_mem_words (route.printed.symm ▸ member)

theorem field_isInfix (number : Nat) :
    route.field number <:+: route.line := by
  rw [field]
  cases found : ("default".toList :: route.words)[number - 1]? with
  | none => exact List.nil_infix
  | some word => exact word_isInfix (List.mem_of_getElem? found)

/-- Every line of a listing is matched. -/
theorem print_listing (number : Nat) (routes : List DefaultRoute) :
    Awk.print "default".toList number (listing routes) =
      (routes.map (field number)).flatMap (· ++ ['\n']) := by
  have oneLine : ∀ line ∈ routes.map (·.line), '\n' ∉ line := by
    intro line member
    obtain ⟨route, _, rfl⟩ := List.mem_map.mp member
    exact route.oneLine
  have matched :
      ∀ line ∈ routes.map (·.line),
        decide ("default".toList <:+: line) = true := by
    intro line member
    obtain ⟨route, _, rfl⟩ := List.mem_map.mp member
    exact decide_eq_true (word_isInfix List.mem_cons_self)
  rw [Awk.print, listing, Text.lines_flatMap oneLine,
    List.filter_eq_self.mpr matched, List.flatMap_map, List.flatMap_map]
  simp only [field_line]

theorem notMem_fields
    {char : Char}
    {routes : List DefaultRoute}
    (other : char ≠ '\n')
    (plain : ∀ route ∈ routes, char ∉ route.line)
    (number : Nat) :
    char ∉ (routes.map (field number)).flatMap (· ++ ['\n']) := by
  intro member
  obtain ⟨text, isField, inside⟩ := List.mem_flatMap.mp member
  obtain ⟨route, isRoute, rfl⟩ := List.mem_map.mp isField
  rcases List.mem_append.mp inside with inField | newline
  · exact plain route isRoute ((field_isInfix number).subset inField)
  · exact other (List.mem_singleton.mp newline)

/-- The fields of all lines, with a newline between two of them. -/
theorem readDefault_listing
    (number : Nat)
    (first : DefaultRoute)
    (rest : List DefaultRoute) :
    Router.readDefault number (some (listing (first :: rest))) =
      .ok (['\n'].intercalate ((first :: rest).map (field number))) := by
  have output :
      Awk.print "default".toList number (listing (first :: rest)) =
        ['\n'].intercalate ((first :: rest).map (field number)) ++
          ['\n'] := by
    rw [print_listing, Text.flatMap_intercalate]
    exact List.cons_ne_nil _ _
  have noZero :=
    notMem_fields (by decide)
      (fun (route : DefaultRoute) (_ : route ∈ first :: rest) =>
        route.noZero)
      number
  rw [← print_listing] at noZero
  rw [Router.readDefault, Option.map_some, Shell.Run_eq noZero, output]
  exact congrArg Except.ok (TrimNewline_append _)

theorem wordAfter_ne_nil
    {name : String}
    {word : List Char}
    (found : route.wordAfter name = some word) :
    word ≠ [] := by
  obtain ⟨entry, isEntry, isValue⟩ := Option.bind_eq_some_iff.mp found
  have among : word ∈ "default".toList :: route.words := by
    apply List.mem_cons_of_mem
    refine List.mem_flatMap.mpr ⟨entry, List.mem_of_find?_eq_some isEntry, ?_⟩
    exact List.mem_cons_of_mem _ (List.mem_of_head? isValue)
  exact Text.ne_nil_of_mem_words (route.printed.symm ▸ among)

/-- Two fields more than there are words in front of the word. -/
theorem field_eq_iff
    {position : Nat}
    {word : List Char}
    (nonempty : word ≠ []) :
    route.field (position + 2) = word ↔
      route.words[position]? = some word := by
  have behind : route.field (position + 2) =
      (route.words[position]?).getD [] := rfl
  rw [behind]
  cases route.words[position]? with
  | none => simp [nonempty.symm]
  | some other => simp

/--
The interface is the word after `dev` and the gateway the word after `via`, if
the first route has them, and both are one word of a command.
-/
structure ReadCorrectly
    (first : DefaultRoute)
    (rest : List DefaultRoute)
    (interface gateway : List Char) : Prop where
  interface_read :
    Router.GetDefaultInterfaceName (some (listing (first :: rest))) =
      .ok interface
  gateway_read :
    Router.GetDefaultGatewayIp (some (listing (first :: rest))) =
      .ok gateway
  dev : ∀ word, first.wordAfter "dev" = some word → interface = word
  via : ∀ word, first.wordAfter "via" = some word → gateway = word
  interface_line : '\n' ∉ interface
  gateway_line : '\n' ∉ gateway

theorem newline_notMem_field (number : Nat) :
    '\n' ∉ route.field number :=
  fun member => route.oneLine ((field_isInfix number).subset member)

/-- With a second route there is a newline between the two fields. -/
theorem single_of_read
    {number : Nat}
    {first : DefaultRoute}
    {rest : List DefaultRoute}
    {result : List Char}
    (read :
      Router.readDefault number (some (listing (first :: rest))) =
        .ok result)
    (oneLine : '\n' ∉ result) :
    rest = [] ∧ result = first.field number := by
  rw [readDefault_listing] at read
  obtain rfl := Except.ok.inj read
  cases rest with
  | nil => simp
  | cons second rest =>
      exact (oneLine (Text.mem_intercalate (rest.map (field number)))).elim

theorem read_single (number : Nat) (route : DefaultRoute) :
    Router.readDefault number (some (listing [route])) =
      .ok (route.field number) := by
  rw [readDefault_listing]
  simp

/--
The code reads the third and the fifth word of every line instead of the words
after the names, of the first line.
-/
theorem default_route_read_iff
    (first : DefaultRoute)
    (rest : List DefaultRoute) :
    (∃ interface gateway, ReadCorrectly first rest interface gateway) ↔
      rest = [] ∧
      (∀ word, first.wordAfter "dev" = some word →
        first.words[3]? = some word) ∧
      (∀ word, first.wordAfter "via" = some word →
        first.words[1]? = some word) := by
  constructor
  · rintro ⟨interface, gateway, correct⟩
    obtain ⟨single, isInterface⟩ :=
      single_of_read correct.interface_read correct.interface_line
    obtain ⟨_, isGateway⟩ :=
      single_of_read correct.gateway_read correct.gateway_line
    refine ⟨single, ?_, ?_⟩
    · intro word found
      exact (field_eq_iff (wordAfter_ne_nil found)).mp
        (isInterface.symm.trans (correct.dev word found))
    · intro word found
      exact (field_eq_iff (wordAfter_ne_nil found)).mp
        (isGateway.symm.trans (correct.via word found))
  · rintro ⟨rfl, dev, via⟩
    refine ⟨first.field 5, first.field 3, ?_⟩
    constructor
    · exact read_single 5 first
    · exact read_single 3 first
    · intro word found
      exact (field_eq_iff (wordAfter_ne_nil found)).mpr (dev word found)
    · intro word found
      exact (field_eq_iff (wordAfter_ne_nil found)).mpr (via word found)
    · exact newline_notMem_field 5
    · exact newline_notMem_field 3

def pointToPoint : DefaultRoute where
  line := "default dev ppp0 scope link ".toList
  attributes :=
    [⟨"dev".toList, ["ppp0".toList]⟩, ⟨"scope".toList, ["link".toList]⟩]
  oneLine := by decide
  noZero := by decide
  printed := by decide

def wired : DefaultRoute where
  line := "default via 10.0.0.1 dev eth0 metric 100 ".toList
  attributes :=
    [⟨"via".toList, ["10.0.0.1".toList]⟩, ⟨"dev".toList, ["eth0".toList]⟩,
      ⟨"metric".toList, ["100".toList]⟩]
  oneLine := by decide
  noZero := by decide
  printed := by decide

def wireless : DefaultRoute where
  line := "default via 10.0.1.1 dev wlan0 metric 600 ".toList
  attributes :=
    [⟨"via".toList, ["10.0.1.1".toList]⟩, ⟨"dev".toList, ["wlan0".toList]⟩,
      ⟨"metric".toList, ["600".toList]⟩]
  oneLine := by decide
  noZero := by decide
  printed := by decide

/-- The interface of one listing is the scope, that of the other two lines. -/
theorem default_route_misread :
    (Router.GetDefaultInterfaceName (some (listing [pointToPoint])) =
        .ok "link".toList ∧
      ¬ ∃ interface gateway,
        ReadCorrectly pointToPoint [] interface gateway) ∧
    Router.GetDefaultInterfaceName (some (listing [wired, wireless])) =
        .ok "eth0\nwlan0".toList ∧
      ¬ ∃ interface gateway,
        ReadCorrectly wired [wireless] interface gateway := by
  have scope :
      Router.GetDefaultInterfaceName (some (listing [pointToPoint])) =
        .ok "link".toList :=
    (read_single 5 pointToPoint).trans (by decide)
  have twoLines :
      Router.GetDefaultInterfaceName
          (some (listing [wired, wireless])) =
        .ok "eth0\nwlan0".toList :=
    (readDefault_listing 5 wired [wireless]).trans (by decide)
  refine ⟨⟨scope, ?_⟩, twoLines, ?_⟩
  · rintro ⟨interface, gateway, correct⟩
    have isDevice := correct.dev "ppp0".toList (by decide)
    have isScope :=
      Except.ok.inj (correct.interface_read.symm.trans scope)
    exact absurd (isDevice.symm.trans isScope) (by decide)
  · rintro ⟨interface, gateway, correct⟩
    have isLines :=
      Except.ok.inj (correct.interface_read.symm.trans twoLines)
    exact absurd (isLines ▸ correct.interface_line) (by decide)

end DefaultRoute

/-- The commands for the client's routes, in order. -/
def route_client_set_default
    (context : ContextDetail)
    (listing : Option (List Char)) :
    Except String (List (List Char)) := do
  let add_default_gw_command :=
    "ip route add default dev $IF_NAME table 42069 >>/dev/null 2>>/dev/null".toList
  let add_default_gw_command2 :=
    "ip route add $EXT_IP via $EXT_GW_IP dev $EXT_IF_NAME >>/dev/null 2>>/dev/null".toList
  let add_default_gw_command4 :=
    "ip rule add not fwmark 42069 table 42069 >>/dev/null 2>>/dev/null".toList
  let add_default_gw_command6 :=
    "ip rule add table main suppress_prefixlength 0 >>/dev/null 2>>/dev/null".toList
  let add_default_gw_command :=
    replace_first add_default_gw_command "$IF_NAME" context.tun_if_name
  let add_default_gw_command2 :=
    replace_first add_default_gw_command2 "$EXT_IP"
      context.server_ip_resolved
  let gateway ← Router.GetDefaultGatewayIp listing
  let add_default_gw_command2 :=
    replace_first add_default_gw_command2 "$EXT_GW_IP"
      (String.ofList gateway)
  let interface ← Router.GetDefaultInterfaceName listing
  let add_default_gw_command2 :=
    replace_first add_default_gw_command2 "$EXT_IF_NAME"
      (String.ofList interface)
  let commands :=
    [add_default_gw_command, add_default_gw_command2,
      add_default_gw_command4, add_default_gw_command6]
  if context.ipv6 then
    let add_default_gw_command3 :=
      "ip -6 route add default dev $IF_NAME table 42069 >>/dev/null 2>>/dev/null".toList
    let add_default_gw_command5 :=
      "ip -6 rule add not fwmark 42069 table 42069 >>/dev/null 2>>/dev/null".toList
    let add_default_gw_command7 :=
      "ip -6 rule add table main suppress_prefixlength 0 >>/dev/null 2>>/dev/null".toList
    let add_default_gw_command3 :=
      replace_first add_default_gw_command3 "$IF_NAME" context.tun_if_name
    return commands ++
      [add_default_gw_command3, add_default_gw_command5,
        add_default_gw_command7]
  else
    return commands

/-- The placeholder behind a text without one. -/
theorem replace_first_found
    (search : String)
    {before : List Char}
    (starts : search.toList.head? = some '$')
    (plain : '$' ∉ before)
    (format : String)
    (rest : List Char) :
    replace_first (before ++ (search.toList ++ rest)) search format =
      before ++ (format.toList ++ rest) := by
  have nonempty : search.toList ≠ [] := by
    intro empty
    rw [empty] at starts
    cases starts
  have found :
      Text.replaceFirst search.toList format.toList
          ([] ++ (search.toList ++ rest)) =
        [] ++ (format.toList ++ rest) :=
    Text.replaceFirst_found nonempty
      (fun _ inside => absurd inside (by simp))
      format.toList
  rw [replace_first_append starts plain]
  exact congrArg (before ++ ·) found

/-- The second command, with its three texts in their places. -/
def routeToServer (address gateway interface : List Char) : List Char :=
  "ip route add ".toList ++ (address ++
    (" via ".toList ++ (gateway ++
      (" dev ".toList ++ (interface ++
        " >>/dev/null 2>>/dev/null".toList)))))

theorem replace_routeToServer
    {address gateway : String}
    (plainAddress : '$' ∉ address.toList)
    (plainGateway : '$' ∉ gateway.toList)
    (interface : String) :
    replace_first
        (replace_first
          (replace_first
            "ip route add $EXT_IP via $EXT_GW_IP dev $EXT_IF_NAME >>/dev/null 2>>/dev/null".toList
            "$EXT_IP" address)
          "$EXT_GW_IP" gateway)
        "$EXT_IF_NAME" interface =
      routeToServer address.toList gateway.toList interface.toList := by
  have template :
      "ip route add $EXT_IP via $EXT_GW_IP dev $EXT_IF_NAME >>/dev/null 2>>/dev/null" =
        "ip route add " ++ ("$EXT_IP" ++ (" via " ++ ("$EXT_GW_IP" ++
          (" dev " ++ ("$EXT_IF_NAME" ++
            " >>/dev/null 2>>/dev/null"))))) := by
    simp
  have beforeGateway :
      '$' ∉ "ip route add ".toList ++ (address.toList ++ " via ".toList) := by
    simp only [List.mem_append, not_or]
    exact ⟨by decide, plainAddress, by decide⟩
  have beforeInterface :
      '$' ∉ "ip route add ".toList ++ (address.toList ++ (" via ".toList ++
        (gateway.toList ++ " dev ".toList))) := by
    simp only [List.mem_append, not_or]
    exact ⟨by decide, plainAddress, by decide, plainGateway, by decide⟩
  have address_replaced :=
    replace_first_found "$EXT_IP" (by decide)
      (show '$' ∉ "ip route add ".toList by decide) address
  have gateway_replaced :=
    replace_first_found "$EXT_GW_IP" (by decide)
      beforeGateway gateway
  have interface_replaced :=
    replace_first_found "$EXT_IF_NAME" (by decide)
      beforeInterface interface
  simp only [List.append_assoc] at gateway_replaced interface_replaced
  rw [template]
  simp only [String.toList_append]
  rw [address_replaced, gateway_replaced, interface_replaced]
  rfl

theorem set_default_second
    {context : ContextDetail}
    {listing : Option (List Char)}
    {gateway interface : List Char}
    (gatewayRead : Router.GetDefaultGatewayIp listing = .ok gateway)
    (interfaceRead :
      Router.GetDefaultInterfaceName listing = .ok interface)
    (plainAddress : '$' ∉ context.server_ip_resolved.toList)
    (plainGateway : '$' ∉ gateway) :
    ∃ commands,
      route_client_set_default context listing = .ok commands ∧
        commands[1]? =
          some
            (routeToServer context.server_ip_resolved.toList gateway
              interface) := by
  have replaced :=
    replace_routeToServer plainAddress
      (show '$' ∉ (String.ofList gateway).toList by
        rwa [String.toList_ofList])
      (String.ofList interface)
  simp only [String.toList_ofList] at replaced
  rw [route_client_set_default, gatewayRead, interfaceRead, ← replaced]
  cases context.ipv6
  · exact ⟨_, rfl, rfl⟩
  · exact ⟨_, rfl, rfl⟩

theorem newline_notMem_routeToServer
    (address gateway interface : List Char) :
    '\n' ∉ routeToServer address gateway interface ↔
      '\n' ∉ address ∧ '\n' ∉ gateway ∧ '\n' ∉ interface := by
  have plain :
      '\n' ∉ "ip route add ".toList ∧ '\n' ∉ " via ".toList ∧
        '\n' ∉ " dev ".toList ∧
        '\n' ∉ " >>/dev/null 2>>/dev/null".toList := by
    decide
  unfold routeToServer
  simp only [List.mem_append, not_or, plain, not_false_eq_true,
    true_and, and_true]

/-- A second default route splits the command. -/
theorem set_default_line_iff
    {context : ContextDetail}
    {first : DefaultRoute}
    {rest : List DefaultRoute}
    (plainAddress : '$' ∉ context.server_ip_resolved.toList)
    (oneLine : '\n' ∉ context.server_ip_resolved.toList)
    (plain : ∀ route ∈ first :: rest, '$' ∉ route.line) :
    ∃ commands command,
      route_client_set_default context
          (some (DefaultRoute.listing (first :: rest))) = .ok commands ∧
        commands[1]? = some command ∧
        ('\n' ∉ command ↔ rest = []) := by
  have gatewayRead := DefaultRoute.readDefault_listing 3 first rest
  have interfaceRead := DefaultRoute.readDefault_listing 5 first rest
  have plainFields :=
    DefaultRoute.notMem_fields (by decide) plain 3
  have nonempty : (first :: rest).map (DefaultRoute.field 3) ≠ [] :=
    List.cons_ne_nil _ _
  rw [Text.flatMap_intercalate '\n' nonempty, List.mem_append,
    not_or] at plainFields
  obtain ⟨commands, runs, second⟩ :=
    set_default_second gatewayRead interfaceRead plainAddress
      plainFields.1
  refine ⟨commands, _, runs, second, ?_⟩
  rw [newline_notMem_routeToServer]
  constructor
  · rintro ⟨_, gatewayLine, _⟩
    exact (DefaultRoute.single_of_read gatewayRead gatewayLine).1
  · rintro rfl
    have single (number : Nat) :
        '\n' ∉ ['\n'].intercalate
          ([first].map (DefaultRoute.field number)) := by
      simpa using DefaultRoute.newline_notMem_field number
    exact ⟨oneLine, single 3, single 5⟩

end Dsvpn
