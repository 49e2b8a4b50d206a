import Dsvpn.PolicyRouting
import Dsvpn.DefaultRoute
import Dsvpn.ClientStop

namespace Dsvpn

open PolicyRouting

/-!
# The commands for the client's routes

The commands are read the way `ip` reads them; its routing tables and rules
are changed by those that can be read and are not refused.
-/

/-- The commands that take the client's routes back, in order. -/
def route_client_unset_default
    (context : ContextDetail) : List (List Char) :=
  let del_default_gw_command :=
    "ip rule delete table 42069 >>/dev/null 2>>/dev/null".toList
  let del_default_gw_command2 :=
    "ip route del $EXT_IP >>/dev/null 2>>/dev/null".toList
  let del_default_gw_command4 :=
    "ip rule delete table main suppress_prefixlength 0 >>/dev/null 2>>/dev/null".toList
  let del_default_gw_command2 :=
    replace_first del_default_gw_command2 "$EXT_IP"
      context.server_ip_resolved
  let commands :=
    [del_default_gw_command, del_default_gw_command2,
      del_default_gw_command4]
  if context.ipv6 then
    let del_default_gw_command3 :=
      "ip -6 rule delete table 42069 >>/dev/null 2>>/dev/null".toList
    let del_default_gw_command5 :=
      "ip -6 rule delete table main suppress_prefixlength 0 >>/dev/null 2>>/dev/null".toList
    commands ++ [del_default_gw_command3, del_default_gw_command5]
  else
    commands

namespace Router

def SetClientDefaultRoute
    (context : ContextDetail)
    (listing : Option (List Char)) :
    Except String (List (List Char)) :=
  route_client_set_default context listing

def UnsetClientDefaultRoute
    (context : ContextDetail) : List (List Char) :=
  route_client_unset_default context

end Router

/-- What a command ends with, so that its output is thrown away. -/
structure Redirection where
  first : List Char
  rest : List (List Char)
  redirects : List Char → Bool
  redirects_first : redirects first = true
  wellFormed : ∀ word ∈ first :: rest, ' ' ∉ word ∧ word ≠ []

namespace Redirection

/-- The words of a command, without where its output goes. -/
def words
    (redirection : Redirection)
    (command : List Char) : List String :=
  ((Text.words (· == ' ') command).takeWhile fun word =>
    !redirection.redirects word).map String.ofList

/-- One word of a command, and not where its output goes. -/
structure IsWord
    (redirection : Redirection)
    (word : List Char) : Prop where
  whole : ' ' ∉ word
  nonempty : word ≠ []
  plain : redirection.redirects word = false

instance
    (redirection : Redirection)
    (word : List Char) :
    Decidable (redirection.IsWord word) :=
  decidable_of_iff
    (' ' ∉ word ∧ word ≠ [] ∧ redirection.redirects word = false)
    ⟨fun isWord => ⟨isWord.1, isWord.2.1, isWord.2.2⟩,
      fun isWord => ⟨isWord.whole, isWord.nonempty, isWord.plain⟩⟩

/-- The command of the words, with its output thrown away. -/
def quietly
    (redirection : Redirection)
    (words : List String) : List Char :=
  [' '].intercalate
    (words.map String.toList ++ redirection.first :: redirection.rest)

theorem words_quietly
    (redirection : Redirection)
    {texts : List String}
    (isWord : ∀ word ∈ texts, redirection.IsWord word.toList) :
    redirection.words (redirection.quietly texts) = texts := by
  have isWord :
      ∀ word ∈ texts.map String.toList, redirection.IsWord word := by
    simpa using isWord
  have texts_ne :
      texts.map String.toList ++ redirection.first :: redirection.rest ≠
        [] :=
    List.append_ne_nil_of_right_ne_nil _ (List.cons_ne_nil _ _)
  have pieces :=
    Text.words_intercalate texts_ne
      (List.forall_mem_append.mpr
        ⟨fun word member => (isWord word member).whole,
          fun word member => (redirection.wellFormed word member).1⟩)
      (List.forall_mem_append.mpr
        ⟨fun word member => (isWord word member).nonempty,
          fun word member => (redirection.wellFormed word member).2⟩)
  have plain :
      ∀ word ∈ texts.map String.toList,
        (!redirection.redirects word) = true := by
    intro word member
    rw [(isWord word member).plain, Bool.not_false]
  have ending :
      (redirection.first :: redirection.rest).takeWhile
          (fun word => !redirection.redirects word) =
        [] := by
    rw [List.takeWhile_cons, redirection.redirects_first, Bool.not_true,
      if_neg Bool.false_ne_true]
  rw [words, quietly, pieces, List.takeWhile_append_of_pos plain, ending,
    List.append_nil]
  simp

end Redirection

namespace Ip

inductive Family where
  | inet
  | inet6
  deriving Repr, DecidableEq

/-- The bits of an address. -/
def Family.bits : Family → Nat
  | .inet => 32
  | .inet6 => 128

structure Hop where
  via : Option String
  dev : Option String
  deriving Repr, DecidableEq

/-- The packets with the mark, or those without it. -/
structure Selector where
  negated : Bool
  fwmark : Option Nat
  deriving Repr, DecidableEq

def Selector.selects (selector : Selector) (mark : Nat) : Bool :=
  (match selector.fwmark with
    | none => true
    | some fwmark => mark == fwmark) != selector.negated

/-- The rule for the host's own addresses comes before `rules`. -/
abbrev Routes := Routing Hop Selector String

abbrev RouteChange := Change Hop Selector String

/-- The commands end with `>>/dev/null 2>>/dev/null`. -/
def redirection : Redirection where
  first := ">>/dev/null".toList
  rest := ["2>>/dev/null".toList]
  redirects word := ">>/dev/null".toList.isSuffixOf word
  redirects_first := by decide
  wellFormed := by decide

abbrev words (command : List Char) : List String :=
  redirection.words command

abbrev IsWord (word : List Char) : Prop :=
  redirection.IsWord word

def quietly (words : List String) : List Char :=
  redirection.quietly words

theorem quietly_eq (words : List String) :
    quietly words =
      [' '].intercalate
        (words.map String.toList ++
          [">>/dev/null".toList, "2>>/dev/null".toList]) :=
  rfl

/-- The word behind a name. -/
def valueOf (name : String) : List String → Option String
  | key :: value :: rest =>
      if key = name then some value else valueOf name rest
  | _ => none

/-- `address` reads an address; the default route is for all of them. -/
def readRoute
    (address : String → Option (Family × List Bool))
    (family : Family)
    (operation : String) :
    List String → Option (Family × RouteChange)
  | [] => none
  | destination :: attributes => do
      let (family, destination) ←
        if destination = "default" then
          some (family, [])
        else
          address destination
      let table := (valueOf "table" attributes).getD "main"
      if operation = "add" then
        some
          (family,
            .addRoute table
              ⟨destination,
                ⟨valueOf "via" attributes, valueOf "dev" attributes⟩⟩)
      else if operation = "del" then
        some (family, .deleteRoute table destination)
      else
        none

def readRule
    (family : Family)
    (operation : String)
    (words : List String) : Option (Family × RouteChange) := do
  let negated := words.head? = some "not"
  let attributes := if negated then words.tail else words
  let number (name : String) : Option Nat :=
    (valueOf name attributes).map fun word => (atoi word).toNat
  let table ← valueOf "table" attributes
  let suppress_prefixlength := number "suppress_prefixlength"
  if operation = "add" then
    some
      (family,
        .addRule
          ⟨⟨negated, number "fwmark"⟩, table, suppress_prefixlength⟩)
  else if operation = "delete" then
    some (family, .deleteRule table suppress_prefixlength)
  else
    none

/-- Without `-6` the family is `inet`, unless an address is of the other. -/
def readWords
    (address : String → Option (Family × List Bool)) :
    List String → Option (Family × RouteChange)
  | "ip" :: "-6" :: "route" :: operation :: words =>
      readRoute address .inet6 operation words
  | "ip" :: "-6" :: "rule" :: operation :: words =>
      readRule .inet6 operation words
  | "ip" :: "route" :: operation :: words =>
      readRoute address .inet operation words
  | "ip" :: "rule" :: operation :: words =>
      readRule .inet operation words
  | _ => none

/--
What the commands depend on.  `accepts` is for the next hop of a new route: its
device is there and its gateway can be reached.
-/
structure Host where
  address : String → Option (Family × List Bool)
  accepts : Family → Hop → Bool
  listing : Option (List Char)

/-- What a command changes, unless the next hop is not accepted. -/
def unlessRefused
    (accepts : Family → Hop → Bool)
    (read : Option (Family × RouteChange)) :
    Option (Family × RouteChange) :=
  read.filter fun (family, change) =>
    match change with
    | .addRoute _ route => accepts family route.hop
    | _ => true

/-- The routes are not changed when a pipe that was to be read is missing. -/
def performed
    (read : List Char → Option (Family × RouteChange))
    (unset : List (List Char))
    (set : Except String (List (List Char)))
    (routes : Family → Routes) : RouteAction → Family → Routes
  | .unsetRoute => unset.foldl (run read) routes
  | .setRoute =>
      match set with
      | .ok commands => commands.foldl (run read) routes
      | .error _ => routes
  | .stop => routes

namespace Host

def readCommand
    (host : Host)
    (command : List Char) : Option (Family × RouteChange) :=
  unlessRefused host.accepts (readWords host.address (words command))

def perform
    (host : Host)
    (context : ContextDetail) :
    (Family → Routes) → RouteAction → Family → Routes :=
  performed host.readCommand (Router.UnsetClientDefaultRoute context)
    (Router.SetClientDefaultRoute context host.listing)

end Host

/-- How a command for one family begins. -/
def program : Family → List String
  | .inet => ["ip"]
  | .inet6 => ["ip", "-6"]

theorem readWords_route
    (address : String → Option (Family × List Bool))
    (family : Family)
    (operation : String)
    (words : List String) :
    readWords address (program family ++ "route" :: operation :: words) =
      readRoute address family operation words := by
  cases family <;> rfl

theorem readWords_rule
    (address : String → Option (Family × List Bool))
    (family : Family)
    (operation : String)
    (words : List String) :
    readWords address (program family ++ "rule" :: operation :: words) =
      readRule family operation words := by
  cases family <;> rfl

theorem readCommand_quietly
    {host : Host}
    {family : Family}
    {texts : List String}
    {entry : Family × RouteChange}
    (isWord : ∀ word ∈ texts, IsWord word.toList)
    (read : readWords host.address (program family ++ texts) = some entry)
    (allowed : unlessRefused host.accepts (some entry) = some entry) :
    host.readCommand (quietly (program family ++ texts)) =
      some entry := by
  have isProgram : ∀ word ∈ program family, IsWord word.toList := by
    cases family <;> decide
  have all : ∀ word ∈ program family ++ texts, IsWord word.toList :=
    List.forall_mem_append.mpr ⟨isProgram, isWord⟩
  have same : words (quietly (program family ++ texts)) = _ :=
    redirection.words_quietly all
  rw [Host.readCommand, same, read, allowed]

/-- The words behind `ip route add` for the server. -/
def serverWords
    (context : ContextDetail)
    (gateway interface : String) : List String :=
  [context.server_ip_resolved, "via", gateway, "dev", interface]

def tunnelWords (context : ContextDetail) : List String :=
  ["default", "dev", context.tun_if_name, "table", "42069"]

/-- The words of the two rules. -/
def tunnelRuleWords : List String :=
  ["not", "fwmark", "42069", "table", "42069"]

def specificRuleWords : List String :=
  ["table", "main", "suppress_prefixlength", "0"]

theorem addRuleTexts :
    "ip rule add not fwmark 42069 table 42069 >>/dev/null 2>>/dev/null".toList =
        quietly (program .inet ++ "rule" :: "add" :: tunnelRuleWords) ∧
      "ip rule add table main suppress_prefixlength 0 >>/dev/null 2>>/dev/null".toList =
        quietly (program .inet ++ "rule" :: "add" :: specificRuleWords) ∧
      "ip -6 rule add not fwmark 42069 table 42069 >>/dev/null 2>>/dev/null".toList =
        quietly (program .inet6 ++ "rule" :: "add" :: tunnelRuleWords) ∧
      "ip -6 rule add table main suppress_prefixlength 0 >>/dev/null 2>>/dev/null".toList =
        quietly
          (program .inet6 ++ "rule" :: "add" :: specificRuleWords) := by
  decide +kernel

theorem deleteRuleTexts :
    "ip rule delete table 42069 >>/dev/null 2>>/dev/null".toList =
        quietly
          (program .inet ++ "rule" :: "delete" :: ["table", "42069"]) ∧
      "ip rule delete table main suppress_prefixlength 0 >>/dev/null 2>>/dev/null".toList =
        quietly
          (program .inet ++ "rule" :: "delete" :: specificRuleWords) ∧
      "ip -6 rule delete table 42069 >>/dev/null 2>>/dev/null".toList =
        quietly
          (program .inet6 ++ "rule" :: "delete" :: ["table", "42069"]) ∧
      "ip -6 rule delete table main suppress_prefixlength 0 >>/dev/null 2>>/dev/null".toList =
        quietly
          (program .inet6 ++
            "rule" :: "delete" :: specificRuleWords) := by
  decide +kernel

section

variable
    (context : ContextDetail)
    (gateway interface : String)

theorem replace_tunnel
    {before : List Char}
    (plain : '$' ∉ before) :
    replace_first
        (before ++
          ("$IF_NAME".toList ++
            " table 42069 >>/dev/null 2>>/dev/null".toList))
        "$IF_NAME" context.tun_if_name =
      before ++
        (context.tun_if_name.toList ++
          " table 42069 >>/dev/null 2>>/dev/null".toList) :=
  replace_first_found "$IF_NAME" (by decide) plain context.tun_if_name _

theorem tunnelText :
    replace_first
        "ip route add default dev $IF_NAME table 42069 >>/dev/null 2>>/dev/null".toList
        "$IF_NAME" context.tun_if_name =
      quietly
        (program .inet ++ "route" :: "add" :: tunnelWords context) := by
  have replaced :=
    replace_tunnel context
      (show '$' ∉ "ip route add default dev ".toList by decide)
  simpa [quietly_eq, program, tunnelWords, List.intercalate] using replaced

theorem tunnelText6 :
    replace_first
        "ip -6 route add default dev $IF_NAME table 42069 >>/dev/null 2>>/dev/null".toList
        "$IF_NAME" context.tun_if_name =
      quietly
        (program .inet6 ++ "route" :: "add" :: tunnelWords context) := by
  have replaced :=
    replace_tunnel context
      (show '$' ∉ "ip -6 route add default dev ".toList by decide)
  simpa [quietly_eq, program, tunnelWords, List.intercalate] using replaced

theorem serverText :
    routeToServer context.server_ip_resolved.toList gateway.toList
        interface.toList =
      quietly
        (program .inet ++
          "route" :: "add" :: serverWords context gateway interface) :=
  rfl

theorem deleteServerText :
    replace_first
        "ip route del $EXT_IP >>/dev/null 2>>/dev/null".toList
        "$EXT_IP" context.server_ip_resolved =
      quietly
        (program .inet ++
          ["route", "del", context.server_ip_resolved]) := by
  have replaced :=
    replace_first_found "$EXT_IP" (by decide)
      (show '$' ∉ "ip route del ".toList by decide)
      context.server_ip_resolved " >>/dev/null 2>>/dev/null".toList
  simpa [quietly_eq, program, List.intercalate] using replaced

end

/-- The families that the commands are for. -/
def families (context : ContextDetail) : List Family :=
  if context.ipv6 then [.inet, .inet6] else [.inet]

theorem filter_families
    (context : ContextDetail)
    (changes : Family → List RouteChange)
    (family : Family) :
    (((families context).flatMap fun other =>
        (changes other).map (Prod.mk other)).filter
          fun change => change.1 = family).map Prod.snd =
      if family ∈ families context then changes family else [] := by
  have own (other : Family) :
      (((changes other).map (Prod.mk other)).filter
          fun change => change.1 = family).map Prod.snd =
        if other = family then changes other else [] := by
    by_cases same : other = family
    · simp [same, List.filter_map, Function.comp_def]
    · simp [same, List.filter_map, Function.comp_def]
  unfold families
  cases context.ipv6 <;> cases family <;> simp [own]

theorem foldl_families
    {context : ContextDetail}
    {read : List Char → Option (Family × RouteChange)}
    {commands : List (List Char)}
    {changes : Family → List RouteChange}
    (changed :
      commands.filterMap read =
        (families context).flatMap fun family =>
          (changes family).map (Prod.mk family))
    (routes : Family → Routes)
    (family : Family) :
    commands.foldl (run read) routes family =
      if family ∈ families context then
        (changes family).foldl Routing.apply (routes family)
      else
        routes family := by
  rw [foldl_run, changed, filter_families context]
  split <;> rfl

end Ip

end Dsvpn
