import Dsvpn.BagPrograms
import Dsvpn.Context
import Dsvpn.Text

namespace Dsvpn

/-!
# The firewall rules of the server

Setting up the TUN device and adding the client each run shell commands that
add rules to the chains of the firewall, and removing them again runs commands
that delete them.  The commands are templates in which placeholders are
replaced.
-/

/-- `boost::replace_first`. -/
def replace_first (input : List Char) (search format : String) : List Char :=
  Text.replaceFirst search.toList format.toList input

/-- The commands of `tun_setup`, in order. -/
def tun_setup (context : ContextDetail) : List (List Char) :=
  let ifUp := "ip link set dev $IF_NAME up".toList
  let ifUp2 :=
    "iptables -t raw -I PREROUTING ! -i $IF_NAME -d $LOCAL_TUN_IP -m addrtype ! --src-type LOCAL -j DROP".toList
  let ipv4Up :=
    "ip addr add $LOCAL_TUN_IP peer $REMOTE_TUN_IP dev $IF_NAME".toList
  let ipv6Up :=
    "ip -6 addr add $LOCAL_TUN_IP6 peer $REMOTE_TUN_IP6/96 dev $IF_NAME".toList
  let ifUp := replace_first ifUp "$IF_NAME" context.tun_if_name
  let ifUp2 := replace_first ifUp2 "$IF_NAME" context.tun_if_name
  let ifUp2 := replace_first ifUp2 "$LOCAL_TUN_IP" context.local_tun_ip
  let ipv4Up := replace_first ipv4Up "$LOCAL_TUN_IP" context.local_tun_ip
  let ipv4Up := replace_first ipv4Up "$REMOTE_TUN_IP" context.remote_tun_ip
  let ipv4Up := replace_first ipv4Up "$IF_NAME" context.tun_if_name
  let ipv6Up := replace_first ipv6Up "$LOCAL_TUN_IP6" context.local_tun_ip6
  let ipv6Up :=
    replace_first ipv6Up "$REMOTE_TUN_IP6" context.remote_tun_ip6
  let ipv6Up := replace_first ipv6Up "$IF_NAME" context.tun_if_name
  [ifUp, ifUp2, ipv4Up, ipv6Up]

/-- The command of `tun_remove`. -/
def tun_remove (context : ContextDetail) : List (List Char) :=
  let ifDown :=
    "iptables -t raw -D PREROUTING ! -i $IF_NAME -d $LOCAL_TUN_IP -m addrtype ! --src-type LOCAL -j DROP".toList
  let ifDown := replace_first ifDown "$IF_NAME" context.tun_if_name
  let ifDown := replace_first ifDown "$LOCAL_TUN_IP" context.local_tun_ip
  [ifDown]

def route_server_add_client (context : ContextDetail) :
    List (List Char) :=
  let add_forward_command :=
    "iptables -t nat -A POSTROUTING -o $EXT_IF_NAME -s $REMOTE_TUN_IP -j MASQUERADE".toList
  let add_forward_command2 :=
    "iptables -t filter -A FORWARD -i $EXT_IF_NAME -o $IF_NAME -m state --state RELATED,ESTABLISHED -j ACCEPT".toList
  let add_forward_command3 :=
    "iptables -t filter -A FORWARD -i $IF_NAME -o $EXT_IF_NAME -j ACCEPT".toList
  let add_forward_command4 :=
    "ip6tables -t nat -A POSTROUTING -o $EXT_IF_NAME -s $REMOTE_TUN_IP6 -j MASQUERADE".toList
  let add_forward_command :=
    replace_first add_forward_command "$EXT_IF_NAME" context.ext_if_name
  let add_forward_command :=
    replace_first add_forward_command "$REMOTE_TUN_IP"
      context.remote_tun_ip
  let add_forward_command2 :=
    replace_first add_forward_command2 "$EXT_IF_NAME" context.ext_if_name
  let add_forward_command2 :=
    replace_first add_forward_command2 "$IF_NAME" context.tun_if_name
  let add_forward_command3 :=
    replace_first add_forward_command3 "$IF_NAME" context.tun_if_name
  let add_forward_command3 :=
    replace_first add_forward_command3 "$EXT_IF_NAME" context.ext_if_name
  let add_forward_command4 :=
    replace_first add_forward_command4 "$REMOTE_TUN_IP6"
      context.remote_tun_ip6
  let add_forward_command4 :=
    replace_first add_forward_command4 "$EXT_IF_NAME" context.ext_if_name
  [add_forward_command, add_forward_command2, add_forward_command3,
    add_forward_command4]

/-- The last template has the placeholder of the IPv4 address. -/
def route_server_remove_client (context : ContextDetail) :
    List (List Char) :=
  let add_forward_command :=
    "iptables -t nat -D POSTROUTING -o $EXT_IF_NAME -s $REMOTE_TUN_IP -j MASQUERADE".toList
  let add_forward_command2 :=
    "iptables -t filter -D FORWARD -i $EXT_IF_NAME -o $IF_NAME -m state --state RELATED,ESTABLISHED -j ACCEPT".toList
  let add_forward_command3 :=
    "iptables -t filter -D FORWARD -i $IF_NAME -o $EXT_IF_NAME -j ACCEPT".toList
  let add_forward_command4 :=
    "ip6tables -t nat -D POSTROUTING -o $EXT_IF_NAME -s $REMOTE_TUN_IP -j MASQUERADE".toList
  let add_forward_command :=
    replace_first add_forward_command "$EXT_IF_NAME" context.ext_if_name
  let add_forward_command :=
    replace_first add_forward_command "$REMOTE_TUN_IP"
      context.remote_tun_ip
  let add_forward_command2 :=
    replace_first add_forward_command2 "$EXT_IF_NAME" context.ext_if_name
  let add_forward_command2 :=
    replace_first add_forward_command2 "$IF_NAME" context.tun_if_name
  let add_forward_command3 :=
    replace_first add_forward_command3 "$IF_NAME" context.tun_if_name
  let add_forward_command3 :=
    replace_first add_forward_command3 "$EXT_IF_NAME" context.ext_if_name
  let add_forward_command4 :=
    replace_first add_forward_command4 "$REMOTE_TUN_IP"
      context.remote_tun_ip6
  let add_forward_command4 :=
    replace_first add_forward_command4 "$EXT_IF_NAME" context.ext_if_name
  [add_forward_command, add_forward_command2, add_forward_command3,
    add_forward_command4]

/-- A chain of `iptables` or of `ip6tables`. -/
structure Chain where
  command : List Char
  table : List Char
  name : List Char
  deriving DecidableEq

/-- The text up to the next blank, and what is behind it. -/
def nextWord (text : List Char) : List Char × List Char :=
  (text.takeWhile (· != ' '), (text.dropWhile (· != ' ')).drop 1)

/--
What a command does to the chains.  `readRule` is what is made of the words
behind the name of the chain.
-/
def readCommand
    {Rule : Type}
    (readRule : List Char → Rule)
    (text : List Char) : Option (BagOp (Chain × Rule)) :=
  let (command, rest) := nextWord text
  let (flag, rest) := nextWord rest
  let (table, rest) := nextWord rest
  let (operation, rest) := nextWord rest
  let (name, rule) := nextWord rest
  let entry := (⟨command, table, name⟩, readRule rule)
  if
      (command = "iptables".toList ∨ command = "ip6tables".toList) ∧
        flag = "-t".toList then
    if operation = "-A".toList ∨ operation = "-I".toList then
      some (.insert entry)
    else if operation = "-D".toList then
      some (.erase entry)
    else
      none
  else
    none

theorem replace_first_append
    {search : String}
    {before : List Char}
    (starts : search.toList.head? = some '$')
    (plain : '$' ∉ before)
    (format : String)
    (rest : List Char) :
    replace_first (before ++ rest) search format =
      before ++ replace_first rest search format :=
  Text.replaceFirst_append starts plain format.toList rest

theorem nextWord_append
    {word : List Char}
    (whole : ' ' ∉ word)
    (rest : List Char) :
    nextWord (word ++ ' ' :: rest) = (word, rest) := by
  have letters : ∀ char ∈ word, (char != ' ') = true := by
    intro char member
    rw [bne_iff_ne]
    rintro rfl
    exact whole member
  rw [nextWord, List.takeWhile_append_of_pos letters,
    List.dropWhile_append_of_pos letters]
  simp

namespace Chain

/-- The words of a command up to the rule. -/
def words (chain : Chain) (operation rule : List Char) : List Char :=
  chain.command ++ ' ' ::
    ("-t".toList ++ ' ' ::
      (chain.table ++ ' ' ::
        (operation ++ ' ' :: (chain.name ++ ' ' :: rule))))

structure Known (chain : Chain) : Prop where
  command :
    chain.command = "iptables".toList ∨
      chain.command = "ip6tables".toList
  table : ' ' ∉ chain.table
  name : ' ' ∉ chain.name

instance (chain : Chain) : Decidable chain.Known :=
  decidable_of_iff
    ((chain.command = "iptables".toList ∨
        chain.command = "ip6tables".toList) ∧
      ' ' ∉ chain.table ∧ ' ' ∉ chain.name)
    ⟨fun known => ⟨known.1, known.2.1, known.2.2⟩,
      fun known => ⟨known.command, known.table, known.name⟩⟩

variable
    {Rule : Type}
    {chain : Chain}

theorem readCommand_words
    (known : chain.Known)
    {operation : List Char}
    (whole : ' ' ∉ operation)
    (readRule : List Char → Rule)
    (rule : List Char) :
    readCommand readRule (chain.words operation rule) =
      if operation = "-A".toList ∨ operation = "-I".toList then
        some (.insert (chain, readRule rule))
      else if operation = "-D".toList then
        some (.erase (chain, readRule rule))
      else
        none := by
  have command : ' ' ∉ chain.command := by
    rcases known.command with isCommand | isCommand
    · rw [isCommand]
      decide
    · rw [isCommand]
      decide
  simp only [readCommand, words, nextWord_append command,
    nextWord_append known.table, nextWord_append known.name,
    nextWord_append whole,
    nextWord_append (show ' ' ∉ "-t".toList by decide),
    known.command, and_self, if_true]

def rawPrerouting : Chain where
  command := "iptables".toList
  table := "raw".toList
  name := "PREROUTING".toList

def natPostrouting : Chain where
  command := "iptables".toList
  table := "nat".toList
  name := "POSTROUTING".toList

def filterForward : Chain where
  command := "iptables".toList
  table := "filter".toList
  name := "FORWARD".toList

def natPostrouting6 : Chain where
  command := "ip6tables".toList
  table := "nat".toList
  name := "POSTROUTING".toList

end Chain

section

variable (context : ContextDetail)

/-- The rule of `ifUp2` and of `ifDown`. -/
def dropRule : List Char :=
  replace_first
    (replace_first
      "! -i $IF_NAME -d $LOCAL_TUN_IP -m addrtype ! --src-type LOCAL -j DROP".toList
      "$IF_NAME" context.tun_if_name)
    "$LOCAL_TUN_IP" context.local_tun_ip

def masqueradeRule : List Char :=
  replace_first
    (replace_first "-o $EXT_IF_NAME -s $REMOTE_TUN_IP -j MASQUERADE".toList
      "$EXT_IF_NAME" context.ext_if_name)
    "$REMOTE_TUN_IP" context.remote_tun_ip

def establishedRule : List Char :=
  replace_first
    (replace_first
      "-i $EXT_IF_NAME -o $IF_NAME -m state --state RELATED,ESTABLISHED -j ACCEPT".toList
      "$EXT_IF_NAME" context.ext_if_name)
    "$IF_NAME" context.tun_if_name

def forwardRule : List Char :=
  replace_first
    (replace_first "-i $IF_NAME -o $EXT_IF_NAME -j ACCEPT".toList
      "$IF_NAME" context.tun_if_name)
    "$EXT_IF_NAME" context.ext_if_name

def masqueradeRule6 : List Char :=
  replace_first
    (replace_first
      "-o $EXT_IF_NAME -s $REMOTE_TUN_IP6 -j MASQUERADE".toList
      "$REMOTE_TUN_IP6" context.remote_tun_ip6)
    "$EXT_IF_NAME" context.ext_if_name

/-- Either placeholder of the address is replaced where it stands. -/
theorem masqueradeRule6_eq :
    masqueradeRule6 context =
      replace_first
        (replace_first
          "-o $EXT_IF_NAME -s $REMOTE_TUN_IP -j MASQUERADE".toList
          "$REMOTE_TUN_IP" context.remote_tun_ip6)
        "$EXT_IF_NAME" context.ext_if_name := by
  have adds :
      "-o $EXT_IF_NAME -s $REMOTE_TUN_IP6 -j MASQUERADE" =
        "-o $EXT_IF_NAME -s " ++ ("$REMOTE_TUN_IP6" ++ " -j MASQUERADE") := by
    simp
  have removes :
      "-o $EXT_IF_NAME -s $REMOTE_TUN_IP -j MASQUERADE" =
        "-o $EXT_IF_NAME -s " ++ ("$REMOTE_TUN_IP" ++ " -j MASQUERADE") := by
    simp
  rw [masqueradeRule6, replace_first, replace_first, replace_first,
    replace_first, adds, removes, String.toList_append,
    String.toList_append, String.toList_append, String.toList_append,
    Text.replaceFirst_found (by decide) (by decide +kernel),
    Text.replaceFirst_found (by decide) (by decide +kernel)]

end

/-- The beginning of a template, up to the rule. -/
structure Begins
    (before : String)
    (chain : Chain)
    (operation : List Char) : Prop where
  known : chain.Known
  whole : ' ' ∉ operation
  words : before.toList = chain.words operation []
  plain : '$' ∉ before.toList

theorem begins_insertRaw :
    Begins "iptables -t raw -I PREROUTING " .rawPrerouting "-I".toList := by
  constructor <;> decide

theorem begins_deleteRaw :
    Begins "iptables -t raw -D PREROUTING " .rawPrerouting "-D".toList := by
  constructor <;> decide

theorem begins_addNat :
    Begins "iptables -t nat -A POSTROUTING " .natPostrouting
      "-A".toList := by
  constructor <;> decide

theorem begins_deleteNat :
    Begins "iptables -t nat -D POSTROUTING " .natPostrouting
      "-D".toList := by
  constructor <;> decide

theorem begins_addForward :
    Begins "iptables -t filter -A FORWARD " .filterForward
      "-A".toList := by
  constructor <;> decide

theorem begins_deleteForward :
    Begins "iptables -t filter -D FORWARD " .filterForward
      "-D".toList := by
  constructor <;> decide

theorem begins_addNat6 :
    Begins "ip6tables -t nat -A POSTROUTING " .natPostrouting6
      "-A".toList := by
  constructor <;> decide

theorem begins_deleteNat6 :
    Begins "ip6tables -t nat -D POSTROUTING " .natPostrouting6
      "-D".toList := by
  constructor <;> decide

namespace Begins

variable
    {Rule : Type}
    {readRule : List Char → Rule}
    {chain : Chain}
    {operation : List Char}
    {before template rule first second format format' : String}

/-- The replacements leave the words before the rule alone. -/
theorem replaced
    (begins : Begins before chain operation)
    (shape : template = before ++ rule)
    (starts :
      first.toList.head? = some '$' ∧ second.toList.head? = some '$') :
    replace_first (replace_first template.toList first format) second
        format' =
      chain.words operation
        (replace_first (replace_first rule.toList first format) second
          format') := by
  have words (rest : List Char) :
      before.toList ++ rest = chain.words operation rest := by
    simp [begins.words, Chain.words]
  rw [shape, String.toList_append,
    replace_first_append starts.1 begins.plain,
    replace_first_append starts.2 begins.plain, words]

theorem inserts
    (begins : Begins before chain operation)
    (adds : operation = "-A".toList ∨ operation = "-I".toList)
    (shape : template = before ++ rule)
    (starts :
      first.toList.head? = some '$' ∧ second.toList.head? = some '$') :
    readCommand readRule
        (replace_first (replace_first template.toList first format) second
          format') =
      some
        (.insert
          (chain,
            readRule
              (replace_first (replace_first rule.toList first format)
                second format'))) := by
  rw [begins.replaced shape starts,
    Chain.readCommand_words begins.known begins.whole, if_pos adds]

theorem erases
    (begins : Begins before chain operation)
    (deletes : operation = "-D".toList)
    (shape : template = before ++ rule)
    (starts :
      first.toList.head? = some '$' ∧ second.toList.head? = some '$') :
    readCommand readRule
        (replace_first (replace_first template.toList first format) second
          format') =
      some
        (.erase
          (chain,
            readRule
              (replace_first (replace_first rule.toList first format)
                second format'))) := by
  rw [begins.replaced shape starts,
    Chain.readCommand_words begins.known begins.whole, deletes,
    if_neg (by decide), if_pos rfl]

end Begins

/-- A command about devices and addresses. -/
def IsIp (command : List Char) : Prop :=
  ∃ rest, command = "ip ".toList ++ rest

theorem IsIp.replace
    {command : List Char}
    {search : String}
    (isIp : IsIp command)
    (starts : search.toList.head? = some '$')
    (format : String) :
    IsIp (replace_first command search format) := by
  obtain ⟨rest, rfl⟩ := isIp
  exact ⟨_, replace_first_append starts (by decide) format rest⟩

theorem IsIp.read
    {Rule : Type}
    {readRule : List Char → Rule}
    {command : List Char}
    (isIp : IsIp command) :
    readCommand readRule command = none := by
  obtain ⟨rest, rfl⟩ := isIp
  have blank : "ip ".toList ++ rest = "ip".toList ++ ' ' :: rest := by
    simp
  have other :
      ¬ ("ip".toList = "iptables".toList ∨
        "ip".toList = "ip6tables".toList) := by
    decide
  rw [blank, readCommand, nextWord_append (by decide)]
  exact if_neg fun command => other command.1

theorem isIp_append
    {command : String}
    (rest : String)
    (shape : command = "ip " ++ rest) :
    IsIp command.toList :=
  ⟨rest.toList, shape ▸ String.toList_append⟩

section

variable
    {Rule : Type}
    (readRule : List Char → Rule)
    (context : ContextDetail)

/-- Its five rules, in the order in which they are added. -/
def rulesOf : List (Chain × Rule) :=
  [(.rawPrerouting, readRule (dropRule context)),
    (.natPostrouting, readRule (masqueradeRule context)),
    (.filterForward, readRule (establishedRule context)),
    (.filterForward, readRule (forwardRule context)),
    (.natPostrouting6, readRule (masqueradeRule6 context))]

theorem filterMap_tun_setup :
    (tun_setup context).filterMap (readCommand readRule) =
      [.insert (.rawPrerouting, readRule (dropRule context))] := by
  have ifUp : IsIp "ip link set dev $IF_NAME up".toList :=
    isIp_append "link set dev $IF_NAME up" (by simp)
  have ifUp2 :
      "iptables -t raw -I PREROUTING ! -i $IF_NAME -d $LOCAL_TUN_IP -m addrtype ! --src-type LOCAL -j DROP" =
        "iptables -t raw -I PREROUTING " ++
          "! -i $IF_NAME -d $LOCAL_TUN_IP -m addrtype ! --src-type LOCAL -j DROP" := by
    simp
  have ipv4Up :
      IsIp
        "ip addr add $LOCAL_TUN_IP peer $REMOTE_TUN_IP dev $IF_NAME".toList :=
    isIp_append
      "addr add $LOCAL_TUN_IP peer $REMOTE_TUN_IP dev $IF_NAME"
      (by simp)
  have ipv6Up :
      IsIp
        "ip -6 addr add $LOCAL_TUN_IP6 peer $REMOTE_TUN_IP6/96 dev $IF_NAME".toList :=
    isIp_append
      "-6 addr add $LOCAL_TUN_IP6 peer $REMOTE_TUN_IP6/96 dev $IF_NAME"
      (by simp)
  rw [tun_setup, List.filterMap_cons_none (ifUp.replace rfl _).read,
    List.filterMap_cons_some
      (begins_insertRaw.inserts (Or.inr rfl) ifUp2 ⟨rfl, rfl⟩),
    List.filterMap_cons_none
      (((ipv4Up.replace rfl _).replace rfl _).replace rfl _).read,
    List.filterMap_cons_none
      (((ipv6Up.replace rfl _).replace rfl _).replace rfl _).read,
    List.filterMap_nil]
  rfl

theorem filterMap_tun_remove :
    (tun_remove context).filterMap (readCommand readRule) =
      [.erase (.rawPrerouting, readRule (dropRule context))] := by
  have ifDown :
      "iptables -t raw -D PREROUTING ! -i $IF_NAME -d $LOCAL_TUN_IP -m addrtype ! --src-type LOCAL -j DROP" =
        "iptables -t raw -D PREROUTING " ++
          "! -i $IF_NAME -d $LOCAL_TUN_IP -m addrtype ! --src-type LOCAL -j DROP" := by
    simp
  rw [tun_remove,
    List.filterMap_cons_some
      (begins_deleteRaw.erases rfl ifDown ⟨rfl, rfl⟩),
    List.filterMap_nil]
  rfl

theorem filterMap_route_server_add_client :
    (route_server_add_client context).filterMap (readCommand readRule) =
      [.insert (.natPostrouting, readRule (masqueradeRule context)),
        .insert (.filterForward, readRule (establishedRule context)),
        .insert (.filterForward, readRule (forwardRule context)),
        .insert (.natPostrouting6, readRule (masqueradeRule6 context))] := by
  have add_forward_command :
      "iptables -t nat -A POSTROUTING -o $EXT_IF_NAME -s $REMOTE_TUN_IP -j MASQUERADE" =
        "iptables -t nat -A POSTROUTING " ++
          "-o $EXT_IF_NAME -s $REMOTE_TUN_IP -j MASQUERADE" := by
    simp
  have add_forward_command2 :
      "iptables -t filter -A FORWARD -i $EXT_IF_NAME -o $IF_NAME -m state --state RELATED,ESTABLISHED -j ACCEPT" =
        "iptables -t filter -A FORWARD " ++
          "-i $EXT_IF_NAME -o $IF_NAME -m state --state RELATED,ESTABLISHED -j ACCEPT" := by
    simp
  have add_forward_command3 :
      "iptables -t filter -A FORWARD -i $IF_NAME -o $EXT_IF_NAME -j ACCEPT" =
        "iptables -t filter -A FORWARD " ++
          "-i $IF_NAME -o $EXT_IF_NAME -j ACCEPT" := by
    simp
  have add_forward_command4 :
      "ip6tables -t nat -A POSTROUTING -o $EXT_IF_NAME -s $REMOTE_TUN_IP6 -j MASQUERADE" =
        "ip6tables -t nat -A POSTROUTING " ++
          "-o $EXT_IF_NAME -s $REMOTE_TUN_IP6 -j MASQUERADE" := by
    simp
  rw [route_server_add_client,
    List.filterMap_cons_some
      (begins_addNat.inserts (Or.inl rfl) add_forward_command
        ⟨rfl, rfl⟩),
    List.filterMap_cons_some
      (begins_addForward.inserts (Or.inl rfl) add_forward_command2
        ⟨rfl, rfl⟩),
    List.filterMap_cons_some
      (begins_addForward.inserts (Or.inl rfl) add_forward_command3
        ⟨rfl, rfl⟩),
    List.filterMap_cons_some
      (begins_addNat6.inserts (Or.inl rfl) add_forward_command4
        ⟨rfl, rfl⟩),
    List.filterMap_nil]
  rfl

theorem filterMap_route_server_remove_client :
    (route_server_remove_client context).filterMap
        (readCommand readRule) =
      [.erase (.natPostrouting, readRule (masqueradeRule context)),
        .erase (.filterForward, readRule (establishedRule context)),
        .erase (.filterForward, readRule (forwardRule context)),
        .erase (.natPostrouting6, readRule (masqueradeRule6 context))] := by
  have add_forward_command :
      "iptables -t nat -D POSTROUTING -o $EXT_IF_NAME -s $REMOTE_TUN_IP -j MASQUERADE" =
        "iptables -t nat -D POSTROUTING " ++
          "-o $EXT_IF_NAME -s $REMOTE_TUN_IP -j MASQUERADE" := by
    simp
  have add_forward_command2 :
      "iptables -t filter -D FORWARD -i $EXT_IF_NAME -o $IF_NAME -m state --state RELATED,ESTABLISHED -j ACCEPT" =
        "iptables -t filter -D FORWARD " ++
          "-i $EXT_IF_NAME -o $IF_NAME -m state --state RELATED,ESTABLISHED -j ACCEPT" := by
    simp
  have add_forward_command3 :
      "iptables -t filter -D FORWARD -i $IF_NAME -o $EXT_IF_NAME -j ACCEPT" =
        "iptables -t filter -D FORWARD " ++
          "-i $IF_NAME -o $EXT_IF_NAME -j ACCEPT" := by
    simp
  -- The rule has the other placeholder, and the address is the same.
  have add_forward_command4 :
      "ip6tables -t nat -D POSTROUTING -o $EXT_IF_NAME -s $REMOTE_TUN_IP -j MASQUERADE" =
        "ip6tables -t nat -D POSTROUTING " ++
          "-o $EXT_IF_NAME -s $REMOTE_TUN_IP -j MASQUERADE" := by
    simp
  rw [route_server_remove_client,
    List.filterMap_cons_some
      (begins_deleteNat.erases rfl add_forward_command ⟨rfl, rfl⟩),
    List.filterMap_cons_some
      (begins_deleteForward.erases rfl add_forward_command2 ⟨rfl, rfl⟩),
    List.filterMap_cons_some
      (begins_deleteForward.erases rfl add_forward_command3 ⟨rfl, rfl⟩),
    List.filterMap_cons_some
      (begins_deleteNat6.erases rfl add_forward_command4 ⟨rfl, rfl⟩),
    List.filterMap_nil, masqueradeRule6_eq]
  rfl

end

/-! ## Starting and stopping -/

section

variable
    {Rule : Type}
    (readRule : List Char → Rule)
    (context : ContextDetail)

/-- The commands of a start. -/
def startCommands : List (List Char) :=
  tun_setup context ++ route_server_add_client context

/-- A context's rules, and the operations on them from start to stop. -/
def ruleProgram (stop : List (List Char)) :
    List (BagOp (Chain × Rule)) :=
  (startCommands context ++ stop).filterMap (readCommand readRule)

theorem filterMap_startCommands :
    (startCommands context).filterMap (readCommand readRule) =
      (rulesOf readRule context).map .insert := by
  rw [startCommands, List.filterMap_append, filterMap_tun_setup,
    filterMap_route_server_add_client]
  rfl

/-- A stop deletes the rules, in the order of its commands. -/
theorem filterMap_stop
    {stop : List (List Char)}
    (stops :
      stop.Perm
        (route_server_remove_client context ++ tun_remove context)) :
    (stop.filterMap (readCommand readRule)).Perm
      ((rulesOf readRule context).map .erase) := by
  refine (stops.filterMap (readCommand readRule)).trans ?_
  rw [List.filterMap_append, filterMap_tun_remove,
    filterMap_route_server_remove_client]
  exact List.perm_append_comm

theorem balanced_ruleProgram
    [DecidableEq Rule]
    {stop : List (List Char)}
    (stops :
      stop.Perm
        (route_server_remove_client context ++ tun_remove context)) :
    BagOp.Balanced (ruleProgram readRule context stop) := by
  rw [ruleProgram, List.filterMap_append, filterMap_startCommands]
  exact BagOp.balanced_of_perm (filterMap_stop readRule context stops)

theorem applyAll_startCommands [DecidableEq Rule] :
    BagOp.applyAll
        ((startCommands context).filterMap (readCommand readRule)) 0 =
      rulesOf readRule context := by
  rw [filterMap_startCommands, BagOp.applyAll_insert, Multiset.add_zero]

end

/-- Its start is over, and its stop has not begun. -/
def Started
    {Rule : Type}
    {contexts : List ContextDetail}
    (readRule : List Char → Rule)
    (self : SharedBag (Fin contexts.length) (Chain × Rule))
    (index : Fin contexts.length) : Prop :=
  self.done index = (rulesOf readRule (contexts.get index)).length

/--
In every interleaving of the commands of any contexts: the rules of a started
context are present, all five of them, and when every context has not been
started or has been stopped, the rules are the ones there were at first.
`stop` is any order of the commands of a stop.
-/
theorem rules_restored
    {Rule : Type}
    [DecidableEq Rule]
    (readRule : List Char → Rule)
    (contexts : List ContextDetail)
    (stop : Fin contexts.length → List (List Char))
    (stops :
      ∀ index,
        (stop index).Perm
          (route_server_remove_client (contexts.get index) ++
            tun_remove (contexts.get index)))
    (initial : Multiset (Chain × Rule))
    (events : List (Fin contexts.length))
    {final : SharedBag (Fin contexts.length) (Chain × Rule)}
    (reached :
      StepSystem.run
          (SharedBag.step fun index =>
            ruleProgram readRule (contexts.get index) (stop index))
          (SharedBag.start initial) events =
        some final) :
    (∀ index,
        Started readRule final index →
        (rulesOf readRule (contexts.get index)).length = 5 ∧
          (rulesOf readRule (contexts.get index) : Multiset _) ≤
            final.bag) ∧
      ((∀ index,
          final.done index = 0 ∨
            final.done index =
              (ruleProgram readRule (contexts.get index)
                (stop index)).length) →
        final.bag = initial) := by
  have balanced (index : Fin contexts.length) :=
    balanced_ruleProgram readRule (contexts.get index) (stops index)
  have accounted :=
    SharedBag.accounted_of_run (fun index => (balanced index).covered)
      reached
  have restored :=
    accounted.restored fun index => (balanced index).emptied
  constructor
  · intro index started
    refine ⟨rfl, ?_⟩
    have present := accounted.held_le index
    rw [SharedBag.held, started, ruleProgram, List.filterMap_append,
      filterMap_startCommands,
      List.take_left' (List.length_map BagOp.insert),
      ← filterMap_startCommands, applyAll_startCommands] at present
    exact present
  · exact restored

/-- A server for one client. -/
def firstContext : ContextDetail where
  is_server := true
  ext_if_name := "eth0"
  tun_if_name := "dsvpn1800"
  local_tun_ip := "192.168.192.1"
  remote_tun_ip := "192.168.192.100"
  remote_tun_ip6 := "64:ff9b::192.168.192.100"

/-- Another server, which masquerades the same address. -/
def secondContext : ContextDetail :=
  { firstContext with
    tun_if_name := "dsvpn1801"
    local_tun_ip := "192.168.193.1" }

def twoContexts : List ContextDetail :=
  [firstContext, secondContext]

/-- One of their rules is there before, and one of another program. -/
def earlierRules : Multiset (Chain × List Char) :=
  {(.natPostrouting, masqueradeRule firstContext),
    (.filterForward, "-j ACCEPT".toList)}

/-- Both are started before one of them is stopped. -/
def overlapping : List (Fin 2) :=
  List.replicate 5 0 ++ List.replicate 5 1 ++ List.replicate 5 0 ++
    List.replicate 5 1

def stopCommands (context : ContextDetail) : List (List Char) :=
  route_server_remove_client context ++ tun_remove context

/-- With both started the rules of both are there; at the end no more are. -/
theorem rules_restored_overlapping :
    (∃ middle : SharedBag (Fin twoContexts.length) (Chain × List Char),
      StepSystem.run
          (SharedBag.step fun index =>
            ruleProgram id (twoContexts.get index)
              (stopCommands (twoContexts.get index)))
          (SharedBag.start earlierRules) (overlapping.take 10) =
        some middle ∧
      ∀ index,
        (rulesOf id (twoContexts.get index) : Multiset _) ≤ middle.bag) ∧
    ∃ final : SharedBag (Fin twoContexts.length) (Chain × List Char),
      StepSystem.run
          (SharedBag.step fun index =>
            ruleProgram id (twoContexts.get index)
              (stopCommands (twoContexts.get index)))
          (SharedBag.start earlierRules) overlapping =
        some final ∧
      final.bag = earlierRules := by
  have program (context : ContextDetail) :
      ruleProgram id context (stopCommands context) =
        (rulesOf id context).map .insert ++
          [.erase (.natPostrouting, masqueradeRule context),
            .erase (.filterForward, establishedRule context),
            .erase (.filterForward, forwardRule context),
            .erase (.natPostrouting6, masqueradeRule6 context),
            .erase (.rawPrerouting, dropRule context)] := by
    rw [ruleProgram, stopCommands, List.filterMap_append,
      List.filterMap_append, filterMap_startCommands,
      filterMap_route_server_remove_client, filterMap_tun_remove]
    rfl
  constructor
  · have performed :
        ∃ middle : SharedBag (Fin twoContexts.length) (Chain × List Char),
          StepSystem.run
              (SharedBag.step fun index =>
                ruleProgram id (twoContexts.get index)
                  (stopCommands (twoContexts.get index)))
              (SharedBag.start earlierRules) (overlapping.take 10) =
            some middle ∧
          ∀ index : Fin 2, middle.done index = 5 := by
      simp only [program]
      exact ⟨_, rfl, Fin.forall_fin_two.mpr ⟨rfl, rfl⟩⟩
    obtain ⟨middle, reached, done⟩ := performed
    exact ⟨middle, reached, fun index =>
      ((rules_restored id twoContexts _ (fun _ => List.Perm.refl _)
        earlierRules _ reached).1 index (done index)).2⟩
  · have performed :
        ∃ final : SharedBag (Fin twoContexts.length) (Chain × List Char),
          StepSystem.run
              (SharedBag.step fun index =>
                ruleProgram id (twoContexts.get index)
                  (stopCommands (twoContexts.get index)))
              (SharedBag.start earlierRules) overlapping =
            some final ∧
          ∀ index : Fin 2, final.done index = 10 := by
      simp only [program]
      exact ⟨_, rfl, Fin.forall_fin_two.mpr ⟨rfl, rfl⟩⟩
    obtain ⟨final, reached, done⟩ := performed
    refine ⟨final, reached,
      (rules_restored id twoContexts _ (fun _ => List.Perm.refl _)
        earlierRules overlapping reached).2 fun index => Or.inr ?_⟩
    exact (done index).trans (congrArg List.length (program _)).symm

end Dsvpn
