import Dsvpn.DataPath
import Mathlib.Data.List.TakeWhile
import Mathlib.Data.Nat.Digits.Defs

namespace Dsvpn

/-!
# What the configuration file asks for, and what is taken over

`InitByFile` either returns `false` or leaves settings in the context.  The
settings are compared with the file they come from, and the result with the
steps that have failed.  The characters of a text are its bytes.
-/

/-- The number that a text of digits, with or without a sign, stands for. -/
def decimalNumber (text : List Char) : Option Int :=
  let (negative, digits) :=
    match text with
    | '-' :: rest => (true, rest)
    | '+' :: rest => (false, rest)
    | rest => (false, rest)
  if digits ≠ [] ∧ digits.all Char.isDigit then
    let magnitude : Nat :=
      Nat.ofDigits 10 (digits.map fun digit => digit.toNat - 48).reverse
    some (if negative then -magnitude else magnitude)
  else
    none

theorem isspace_of_isDigit
    {char : Char}
    (digit : char.isDigit = true) :
    isspace char = false := by
  simp only [Char.isDigit, Bool.and_eq_true, decide_eq_true_eq] at digit
  obtain ⟨low, _⟩ := digit
  have low : 48 ≤ char.toNat := low
  simp only [isspace, Bool.or_eq_false_iff, Bool.and_eq_false_iff,
    decide_eq_false_iff_not]
  omega

/-- A decimal number has no space in front. -/
theorem dropWhile_isspace_of_digits
    {digits : List Char}
    (all : digits.all Char.isDigit = true) :
    digits.dropWhile isspace = digits := by
  cases digits with
  | nil => rfl
  | cons first rest =>
      simp only [List.all_cons, Bool.and_eq_true] at all
      rw [List.dropWhile_cons_of_neg]
      rw [isspace_of_isDigit all.1]
      exact Bool.false_ne_true

theorem foldl_digits
    (digits : List Char) :
    digits.foldl
        (fun value digit => 10 * value + (digit.toNat - 48)) 0 =
      Nat.ofDigits 10
        (digits.map fun digit => digit.toNat - 48).reverse := by
  rw [Nat.ofDigits_eq_foldr, List.foldr_reverse, List.foldl_map]
  simp only [Nat.cast_id, Nat.add_comm]

/-- The digits of a decimal number, with the sign in front. -/
theorem decimalNumber_cases
    {text : List Char}
    {value : Int}
    (decimal : decimalNumber text = some value) :
    ∃ digits : List Char,
      digits.all Char.isDigit = true ∧
        let magnitude : Nat :=
          digits.foldl
            (fun value digit => 10 * value + (digit.toNat - 48)) 0
        (text = '-' :: digits ∧ value = -magnitude) ∨
          ((text = '+' :: digits ∨ text = digits ∧ digits ≠ []) ∧
            value = magnitude) := by
  unfold decimalNumber at decimal
  split at decimal
  rename_i negative digits signed
  split at decimal
  · rename_i isNumber
    have magnitude := foldl_digits digits
    refine ⟨digits, isNumber.2, ?_⟩
    simp only [magnitude]
    have value := Option.some.inj decimal
    split at signed
    · obtain ⟨rfl, rfl⟩ := Prod.mk.inj signed
      exact Or.inl ⟨rfl, value.symm⟩
    · obtain ⟨rfl, rfl⟩ := Prod.mk.inj signed
      exact Or.inr ⟨Or.inl rfl, value.symm⟩
    · obtain ⟨rfl, rfl⟩ := Prod.mk.inj signed
      exact Or.inr ⟨Or.inr ⟨rfl, isNumber.1⟩, value.symm⟩
  · cases decimal

/-- `strtol` reads a decimal number as it is, if a `long` can hold it. -/
theorem strtol_decimalNumber
    {text : List Char}
    {value : Int}
    (decimal : decimalNumber text = some value) :
    strtol text = max (-2 ^ 63) (min (2 ^ 63 - 1) value) := by
  obtain ⟨digits, all, signed⟩ := decimalNumber_cases decimal
  have whole : digits.takeWhile Char.isDigit = digits :=
    List.takeWhile_eq_self_iff.mpr (by simpa using all)
  generalize read : digits.foldl
    (fun value digit => 10 * value + (digit.toNat - 48)) 0 =
      magnitude at signed
  rcases signed with ⟨rfl, rfl⟩ | ⟨rfl | ⟨rfl, some⟩, rfl⟩
  · have start : ('-' :: digits).dropWhile isspace = '-' :: digits :=
      List.dropWhile_cons_of_neg (by decide)
    simp only [strtol, start, whole, read, if_true]
    omega
  · have start : ('+' :: digits).dropWhile isspace = '+' :: digits :=
      List.dropWhile_cons_of_neg (by decide)
    simp only [strtol, start, whole, read, Bool.false_eq_true, if_false]
    omega
  · have start := dropWhile_isspace_of_digits all
    cases text with
    | nil => exact (some rfl).elim
    | cons first rest =>
        have digit : first.isDigit = true := by
          simp only [List.all_cons, Bool.and_eq_true] at all
          exact all.1
        have unsigned : first ≠ '-' ∧ first ≠ '+' := by
          constructor <;> rintro rfl <;> cases digit
        simp only [strtol, start]
        split
        · rename_i same
          exact (unsigned.1 (List.cons.inj same).1).elim
        · rename_i same
          exact (unsigned.2 (List.cons.inj same).1).elim
        · simp only [whole, read, Bool.false_eq_true, if_false]
          omega

theorem uint32_bmod
    (long : Int) :
    (uint32 (long.bmod (2 ^ 32)) : Int) = long % 2 ^ 32 := by
  have wraps : long.bmod (2 ^ 32) % 2 ^ 32 = long % 2 ^ 32 := by
    exact_mod_cast (Int.bmod_emod : _ % ((2 ^ 32 : Nat) : Int) = _)
  rw [uint32, wraps]
  omega

/-- The MTU is the decimal number in the file exactly if 32 bits hold it. -/
theorem uint32_atoi_eq_iff
    {text : String}
    {value : Int}
    (decimal : decimalNumber text.toList = some value) :
    (uint32 (atoi text) : Int) = value ↔ 0 ≤ value ∧ value < 2 ^ 32 := by
  rw [atoi, uint32_bmod, strtol_decimalNumber decimal]
  omega

namespace Context

/-- The configured value, or the default for a key left to the program. -/
def setting (res : ReturnValue String) (default : String) : String :=
  if isAuto res then default else res.value

def isServer (h : YamlHelper) : Bool :=
  (h.ParseString "is_server").value == "true"

def localDefault (h : YamlHelper) : String :=
  if isServer h then DEFAULT_SERVER_IP else DEFAULT_CLIENT_IP

def remoteDefault (h : YamlHelper) : String :=
  if isServer h then DEFAULT_CLIENT_IP else DEFAULT_SERVER_IP

def localTunIp (h : YamlHelper) : String :=
  setting (h.ParseString "tun.local_tun_ip") (localDefault h)

/-- The prefix of the interface name. -/
def ifName (h : YamlHelper) : String :=
  setting (h.ParseString "tun.if_name") DEFAULT_TUN_IFNAME

/-- The interface name that `InitByFile` asks for. -/
def wantedName (h : YamlHelper) : String :=
  if isServer h then
    ifName h ++ toString (h.ParseUInt16 "server_port").value.toNat
  else
    ifName h

/-- What `readFile` makes of a file that it accepts. -/
def settings (system : System) (h : YamlHelper) : ContextDetail :=
  let remote :=
    if isAuto (h.ParseString "tun.remote_tun_ip") then
      remoteDefault h
    else
      "auto"
  { is_server := isServer h
    tun_if_name := wantedName h
    local_tun_ip := localTunIp h
    remote_tun_ip := remote
    local_tun_ip6 := tunIp6 (localTunIp h)
    remote_tun_ip6 := tunIp6 remote
    server_ip_or_name := (h.ParseString "server_ip_or_name").value
    server_ip_resolved :=
      (system.resolve_ip
        (h.ParseString "server_ip_or_name").value).getD "auto"
    mtu := configuredMtu h
    conn_key := (h.ParseString "conn_key").value
    server_port := (h.ParseUInt16 "server_port").value
    conn_protocol :=
      if (h.ParseString "conn_protocol").value == "tcp" then
        .TCP
      else
        .UDP
    ipv6 :=
      (h.ParseString "ipv6").error ||
        (h.ParseString "ipv6").value == "true" }

/-- The failures that `readFile` reports. -/
structure Readable (system : System) (h : YamlHelper) : Prop where
  is_server : (h.ParseString "is_server").error = false
  platform : isServer h = true → system.platform = .linux
  conn_key : (h.ParseString "conn_key").error = false
  conn_protocol : (h.ParseString "conn_protocol").error = false
  supported : (h.ParseString "conn_protocol").value ≠ "utcp"
  server_ip_or_name : (h.ParseString "server_ip_or_name").error = false
  resolved :
    system.resolve_ip (h.ParseString "server_ip_or_name").value ≠ none

section ReadFile

variable
    {system : System}
    {h : YamlHelper}
    {detail : ContextDetail}

theorem readIsServer_eq_some_iff
    {result : ContextDetail} :
    readIsServer system h detail = some result ↔
      (h.ParseString "is_server").error = false ∧
        (isServer h = true → system.platform = .linux) ∧
        { detail with is_server := isServer h } = result := by
  have refused :
      ((h.ParseString "is_server").value == "true" &&
          system.platform != .linux) = true ↔
        ¬ (isServer h = true → system.platform = .linux) := by
    rw [Bool.and_eq_true, bne_iff_ne, Classical.not_imp]
    rfl
  simp only [readIsServer, refused]
  cases (h.ParseString "is_server").error with
  | true => simp
  | false =>
      rw [if_neg Bool.false_ne_true]
      by_cases allowed : isServer h = true → system.platform = .linux
      · rw [if_neg (not_not_intro allowed)]
        exact ⟨fun same => ⟨rfl, allowed, Option.some.inj same⟩,
          fun read => congrArg some read.2.2⟩
      · rw [if_pos allowed]
        constructor
        · intro same
          cases same
        · intro read
          exact (allowed read.2.1).elim

theorem readIpv6_eq :
    readIpv6 h detail =
      { detail with
        ipv6 :=
          ((h.ParseString "ipv6").error ||
              (h.ParseString "ipv6").value == "true") ||
            detail.ipv6 } := by
  simp only [readIpv6]
  cases (h.ParseString "ipv6").error with
  | true => simp
  | false =>
      cases (h.ParseString "ipv6").value == "true" with
      | true => simp
      | false => simp

theorem readMtu_eq :
    readMtu h detail =
      { detail with
        mtu :=
          if isAuto (h.ParseString "tun.mtu") then
            detail.mtu
          else
            uint32 (atoi (h.ParseString "tun.mtu").value) } := by
  simp only [readMtu]
  split
  · rfl
  · rfl

theorem readLocalTunIp_eq :
    readLocalTunIp h detail =
      { detail with
        local_tun_ip :=
          setting (h.ParseString "tun.local_tun_ip")
            (if detail.is_server then
              DEFAULT_SERVER_IP
            else
              DEFAULT_CLIENT_IP) } := by
  simp only [readLocalTunIp, setting]
  split
  · rfl
  · rfl

theorem readRemoteTunIp_eq :
    readRemoteTunIp h detail =
      { detail with
        remote_tun_ip :=
          if isAuto (h.ParseString "tun.remote_tun_ip") then
            if detail.is_server then
              DEFAULT_CLIENT_IP
            else
              DEFAULT_SERVER_IP
          else
            detail.remote_tun_ip } := by
  simp only [readRemoteTunIp]
  split
  · rfl
  · rfl

theorem readConnKey_eq_some_iff
    {result : ContextDetail} :
    readConnKey h detail = some result ↔
      (h.ParseString "conn_key").error = false ∧
        { detail with
          conn_key := (h.ParseString "conn_key").value } = result := by
  simp only [readConnKey]
  cases (h.ParseString "conn_key").error with
  | true => simp
  | false => simp

/-- A new context has the protocol that a strange value leaves. -/
theorem readConnProtocol_eq_some_iff
    {result : ContextDetail}
    (new : detail.conn_protocol = .UDP) :
    readConnProtocol h detail = some result ↔
      (h.ParseString "conn_protocol").error = false ∧
        (h.ParseString "conn_protocol").value ≠ "utcp" ∧
        { detail with
          conn_protocol :=
            if (h.ParseString "conn_protocol").value == "tcp" then
              .TCP
            else
              .UDP } = result := by
  simp only [readConnProtocol, beq_iff_eq]
  cases (h.ParseString "conn_protocol").error with
  | true => simp
  | false =>
      generalize (h.ParseString "conn_protocol").value = value
      by_cases udp : value = "udp"
      · simp [udp]
      · by_cases tcp : value = "tcp"
        · simp [tcp]
        · by_cases utcp : value = "utcp"
          · simp [utcp]
          · simp [udp, tcp, utcp, ← new]

theorem readServerIp_eq_some_iff
    {result : ContextDetail} :
    readServerIp system h detail = some result ↔
      (h.ParseString "server_ip_or_name").error = false ∧
        system.resolve_ip (h.ParseString "server_ip_or_name").value ≠
          none ∧
        { detail with
          server_ip_or_name := (h.ParseString "server_ip_or_name").value
          server_ip_resolved :=
            (system.resolve_ip
              (h.ParseString "server_ip_or_name").value).getD "auto" } =
          result := by
  simp only [readServerIp]
  cases (h.ParseString "server_ip_or_name").error with
  | true => simp
  | false =>
      cases system.resolve_ip
        (h.ParseString "server_ip_or_name").value with
      | none => simp
      | some ip => simp

/-- The file is accepted when every checked key is there. -/
theorem readFile_eq_some_iff :
    readFile system h {} = some detail ↔
      Readable system h ∧ settings system h = detail := by
  have start :
      readTunIp6
          (readRemoteTunIp h
            (readLocalTunIp h
              (readMtu h
                (readIpv6 h
                  { ({} : ContextDetail) with
                    is_server := isServer h })))) =
        { settings system h with
          tun_if_name := ""
          server_ip_or_name := "auto"
          server_ip_resolved := "auto"
          conn_key := "12345678"
          server_port := 1800
          conn_protocol := .UDP } := by
    simp only [readIpv6_eq, readMtu_eq, readLocalTunIp_eq,
      readRemoteTunIp_eq, readTunIp6, settings, configuredMtu, localTunIp,
      localDefault, remoteDefault, Bool.or_false]
  simp only [readFile, Option.bind_eq_bind, Option.bind_eq_some_iff,
    Option.some.injEq, readIsServer_eq_some_iff,
    readConnKey_eq_some_iff, readServerIp_eq_some_iff]
  constructor
  · rintro ⟨first, ⟨hasServer, platform, rfl⟩, second, ⟨hasKey, rfl⟩,
      third, protocol, fourth, ⟨hasName, resolved, rfl⟩, rfl⟩
    rw [start] at protocol
    obtain ⟨hasProtocol, supported, rfl⟩ :=
      (readConnProtocol_eq_some_iff (by rfl)).mp protocol
    exact
      ⟨{ is_server := hasServer
         platform := platform
         conn_key := hasKey
         conn_protocol := hasProtocol
         supported := supported
         server_ip_or_name := hasName
         resolved := resolved },
        rfl⟩
  · rintro ⟨readable, rfl⟩
    let third : ContextDetail :=
      { settings system h with
        tun_if_name := ""
        server_ip_or_name := "auto"
        server_ip_resolved := "auto"
        server_port := 1800 }
    refine ⟨_, ⟨readable.is_server, readable.platform, rfl⟩,
      _, ⟨readable.conn_key, rfl⟩, third, ?_,
      _, ⟨readable.server_ip_or_name, readable.resolved, rfl⟩, rfl⟩
    rw [start]
    exact (readConnProtocol_eq_some_iff (by rfl)).mpr
      ⟨readable.conn_protocol, readable.supported, rfl⟩

end ReadFile

/-- The device of a new context, after `Create`. -/
def device (system : System) (h : YamlHelper) : TunDevice :=
  (TunDevice.Create system ⟨"", none⟩ (wantedName h)).1

/-- The driver takes the MTU for the device. -/
def TakesMtu (system : System) (h : YamlHelper) : Prop :=
  system.SIOCSIFMTU (snprintf IFNAMSIZ (deviceName system (wantedName h)))
      ((configuredMtu h : Int).bmod (2 ^ 32)) =
    true

theorem device_tun_name
    (system : System)
    (h : YamlHelper) :
    (device system h).tun_name =
      deviceName system (wantedName h) := by
  simp only [device, TunDevice.Create, deviceName]
  split
  · rfl
  · rfl

/-- What `InitByFile` leaves in a context. -/
def initialised (system : System) (h : YamlHelper) : Context where
  detail :=
    { settings system h with
      tun_if_name := deviceName system (wantedName h)
      ext_if_name :=
        if isServer h then system.GetDefaultInterfaceName else "auto"
      gateway_ip :=
        if isServer h then system.GetDefaultGatewayIp else "auto" }
  tun_device := device system h

theorem Create_true
    (system : System)
    (device : TunDevice)
    (wanted : String) :
    (device.Create system wanted).2 = true := by
  simp only [TunDevice.Create]
  split
  · rfl
  · rfl

section InitByFile

variable
    {system : System}
    {h : YamlHelper}
    {context : Context}

theorem openTun_eq_some_iff :
    openTun system { detail := settings system h } = some context ↔
      TakesMtu system h ∧ initialised system h = context := by
  have created :
      TunDevice.Create system ⟨"", none⟩
          (settings system h).tun_if_name =
        (device system h, true) :=
    Prod.ext rfl (Create_true system _ _)
  simp only [openTun, created, TunDevice.Setup, TunDevice.SetMTU,
    device_tun_name, Bool.not_true, Bool.false_eq_true, if_false]
  have takes :
      (!system.SIOCSIFMTU
          (snprintf IFNAMSIZ (deviceName system (wantedName h)))
          (((settings system h).mtu : Int).bmod (2 ^ 32))) = true ↔
        ¬ TakesMtu system h := by
    rw [Bool.not_eq_true', ← Bool.not_eq_true]
    rfl
  by_cases taken : TakesMtu system h
  · rw [if_neg (mt takes.mp (not_not_intro taken)), Option.some.injEq]
    have same :
        Context.mk
            (if (settings system h).is_server then
              { settings system h with
                tun_if_name := deviceName system (wantedName h)
                ext_if_name := system.GetDefaultInterfaceName
                gateway_ip := system.GetDefaultGatewayIp }
            else
              { settings system h with
                tun_if_name := deviceName system (wantedName h) })
            (device system h) =
          initialised system h := by
      simp only [initialised]
      change Context.mk (if isServer h then _ else _) _ = _
      split
      · rfl
      · rfl
    rw [same]
    exact (and_iff_right taken).symm
  · rw [if_pos (takes.mpr taken)]
    constructor
    · intro same
      cases same
    · intro accepted
      exact (taken accepted.1).elim

/-- All that `InitByFile` checks, and what it leaves. -/
theorem InitByFile_eq_some_iff :
    InitByFile system h {} = some context ↔
      Readable system h ∧ TakesMtu system h ∧
        initialised system h = context := by
  simp only [InitByFile, Option.bind_eq_bind, Option.bind_eq_some_iff,
    readFile_eq_some_iff]
  constructor
  · rintro ⟨detail, ⟨readable, rfl⟩, opened⟩
    exact ⟨readable, openTun_eq_some_iff.mp opened⟩
  · rintro ⟨readable, opened⟩
    exact ⟨_, ⟨readable, rfl⟩, openTun_eq_some_iff.mpr opened⟩

end InitByFile

/-! ## What is taken over -/

def configName : ConnProtocolType → String
  | .UDP => "udp"
  | .TCP => "tcp"
  | .UTCP => "utcp"

/-- The values in effect are the ones the file asks for. -/
structure TakenOver (h : YamlHelper) (detail : ContextDetail) : Prop where
  local_tun_ip : detail.local_tun_ip = localTunIp h
  remote_tun_ip :
    detail.remote_tun_ip =
      setting (h.ParseString "tun.remote_tun_ip") (remoteDefault h)
  mtu_default :
    isAuto (h.ParseString "tun.mtu") = true → detail.mtu = 1500 - 52
  mtu :
    isAuto (h.ParseString "tun.mtu") = false →
      decimalNumber (h.ParseString "tun.mtu").value.toList =
        some (detail.mtu : Int)
  conn_key :
    detail.conn_key = setting (h.ParseString "conn_key") "12345678"
  conn_protocol :
    configName detail.conn_protocol =
      setting (h.ParseString "conn_protocol") "udp"
  server_port :
    detail.server_port =
      if (h.ParseUInt16 "server_port").error then
        1800
      else
        (h.ParseUInt16 "server_port").value
  if_name : (ifName h).toList <+: detail.tun_if_name.toList
  local_tun_ip6 : detail.local_tun_ip6 = "64:ff9b::" ++ detail.local_tun_ip
  remote_tun_ip6 :
    detail.remote_tun_ip6 = "64:ff9b::" ++ detail.remote_tun_ip

/--
A remote address other than `auto` is dropped.  The key has no default in the
file, another protocol than these is taken for UDP, without a port the context
keeps what the result of the lookup holds, and the platform decides what names
there are.
-/
structure CanBeTakenOver (system : System) (h : YamlHelper) : Prop where
  remote_tun_ip : isAuto (h.ParseString "tun.remote_tun_ip") = true
  mtu :
    isAuto (h.ParseString "tun.mtu") = false →
      ∃ value : Int,
        decimalNumber (h.ParseString "tun.mtu").value.toList =
          some value ∧ 0 ≤ value ∧ value < 2 ^ 32
  conn_key : (h.ParseString "conn_key").value ≠ "auto"
  conn_protocol :
    (h.ParseString "conn_protocol").value = "udp" ∨
      (h.ParseString "conn_protocol").value = "tcp" ∨
        (h.ParseString "conn_protocol").value = "auto"
  server_port :
    (h.ParseUInt16 "server_port").error = true →
      (h.ParseUInt16 "server_port").value = 1800
  if_name : system.CanName (ifName h)
  text : Char.ofNat 0 ∉ (localTunIp h).toList
  length : (localTunIp h).length ≤ 30

theorem tunIp6_eq_iff
    {ip : String} :
    tunIp6 ip = "64:ff9b::" ++ ip ↔
      Char.ofNat 0 ∉ ip.toList ∧ ip.length ≤ 30 := by
  have printed :
      (tunIp6 ip).toList =
        "64:ff9b::".toList ++
          (ip.toList.takeWhile (· != Char.ofNat 0)).take 30 := by
    simp only [tunIp6, String.toList_ofList, List.take_append]
    rfl
  rw [← String.toList_inj, printed, String.toList_append,
    List.append_cancel_left_eq, ← String.length_toList]
  constructor
  · intro whole
    refine ⟨fun zero => ?_, ?_⟩
    · rw [← whole] at zero
      have kept := List.mem_takeWhile_imp (List.mem_of_mem_take zero)
      exact absurd kept (by simp)
    · rw [← whole, List.length_take]
      exact Nat.min_le_left _ _
  · rintro ⟨text, length⟩
    have unbroken :
        ip.toList.takeWhile (· != Char.ofNat 0) = ip.toList := by
      rw [List.takeWhile_eq_self_iff]
      intro char member
      rw [bne_iff_ne]
      rintro rfl
      exact text member
    rw [unbroken, List.take_of_length_le length]

section TakenOver

variable
    {system : System}
    {h : YamlHelper}

theorem setting_eq_iff_isAuto
    {res : ReturnValue String}
    {default : String} :
    (if isAuto res then default else "auto") = setting res default ↔
      isAuto res = true := by
  unfold setting
  cases auto : isAuto res with
  | true => simp
  | false =>
      simp only [isAuto, Bool.or_eq_false_iff, Bool.and_eq_false_iff]
        at auto
      have other := auto.2
      simp only [auto.1, Bool.not_false, Bool.true_eq_false, false_or,
        beq_eq_false_iff_ne] at other
      simp [other.symm]

theorem conn_key_eq_iff
    {res : ReturnValue String}
    (present : res.error = false) :
    res.value = setting res "12345678" ↔ res.value ≠ "auto" := by
  by_cases auto : res.value = "auto"
  · simp [setting, isAuto, present, auto]
  · simp [setting, isAuto, present, auto]

theorem conn_protocol_eq_iff
    {res : ReturnValue String}
    (present : res.error = false) :
    configName (if res.value == "tcp" then .TCP else .UDP) =
        setting res "udp" ↔
      res.value = "udp" ∨ res.value = "tcp" ∨ res.value = "auto" := by
  by_cases tcp : res.value = "tcp"
  · simp [setting, isAuto, present, tcp, configName]
  · by_cases auto : res.value = "auto"
    · simp [setting, isAuto, present, auto, configName]
    · have configured : setting res "udp" = res.value := by
        simp [setting, isAuto, present, auto]
      have udp :
          configName (if res.value == "tcp" then .TCP else .UDP) =
            "udp" := by
        simp [tcp, configName]
      rw [configured, udp, or_iff_left (not_or.mpr ⟨tcp, auto⟩)]
      exact eq_comm

theorem mtu_eq_iff :
    ((isAuto (h.ParseString "tun.mtu") = true →
          configuredMtu h = 1500 - 52) ∧
        (isAuto (h.ParseString "tun.mtu") = false →
          decimalNumber (h.ParseString "tun.mtu").value.toList =
            some (configuredMtu h : Int))) ↔
      (isAuto (h.ParseString "tun.mtu") = false →
        ∃ value : Int,
          decimalNumber (h.ParseString "tun.mtu").value.toList =
            some value ∧ 0 ≤ value ∧ value < 2 ^ 32) := by
  simp only [configuredMtu]
  cases isAuto (h.ParseString "tun.mtu") with
  | true => simp
  | false =>
      simp only [Bool.false_eq_true, if_false, false_implies,
        true_and, forall_const]
      constructor
      · intro same
        exact ⟨_, same, (uint32_atoi_eq_iff same).mp rfl⟩
      · rintro ⟨value, decimal, range⟩
        rw [decimal, (uint32_atoi_eq_iff decimal).mpr range]

/-- The name that is asked for has only digits behind the prefix. -/
theorem wantedName_eq
    (h : YamlHelper) :
    ∃ digits,
      (wantedName h).toList = (ifName h).toList ++ digits ∧
        '%' ∉ digits := by
  unfold wantedName
  split
  · refine ⟨_, String.toList_append, fun percent => ?_⟩
    rw [Nat.toString_eq_repr, Nat.toList_repr] at percent
    have digit :=
      Nat.isDigit_of_mem_toDigits (by decide) (by decide) percent
    exact absurd digit (by decide)
  · exact ⟨[], (List.append_nil _).symm, List.not_mem_nil⟩

theorem if_name_iff
    (documented : system.Documented)
    (takes : TakesMtu system h) :
    (ifName h).toList <+: (deviceName system (wantedName h)).toList ↔
      system.CanName (ifName h) := by
  obtain ⟨digits, wanted, plain⟩ := wantedName_eq h
  refine documented.prefix_deviceName_iff (documented.opened takes) ?_ ?_
  · rw [wanted]
    exact List.prefix_append _ _
  · intro percent
    rw [wanted] at percent
    exact (List.mem_append.mp percent).resolve_right plain

/-- Every setting is compared on its own. -/
theorem takenOver_initialised_iff
    (documented : system.Documented)
    (readable : Readable system h)
    (takes : TakesMtu system h) :
    TakenOver h (initialised system h).detail ↔
      CanBeTakenOver system h := by
  have name := if_name_iff documented takes
  have local6 :
      tunIp6 (localTunIp h) = "64:ff9b::" ++ localTunIp h ↔
        Char.ofNat 0 ∉ (localTunIp h).toList ∧
          (localTunIp h).length ≤ 30 :=
    tunIp6_eq_iff
  constructor
  · intro taken
    exact
      { remote_tun_ip := setting_eq_iff_isAuto.mp taken.remote_tun_ip
        mtu := mtu_eq_iff.mp ⟨taken.mtu_default, taken.mtu⟩
        conn_key :=
          (conn_key_eq_iff readable.conn_key).mp taken.conn_key
        conn_protocol :=
          (conn_protocol_eq_iff readable.conn_protocol).mp
            taken.conn_protocol
        server_port := fun missing => by
          have port := taken.server_port
          rwa [if_pos missing] at port
        if_name := name.mp taken.if_name
        text := (local6.mp taken.local_tun_ip6).1
        length := (local6.mp taken.local_tun_ip6).2 }
  · intro able
    have mtu := mtu_eq_iff.mpr able.mtu
    refine
      { local_tun_ip := rfl
        remote_tun_ip := setting_eq_iff_isAuto.mpr able.remote_tun_ip
        mtu_default := mtu.1
        mtu := mtu.2
        conn_key :=
          (conn_key_eq_iff readable.conn_key).mpr able.conn_key
        conn_protocol :=
          (conn_protocol_eq_iff readable.conn_protocol).mpr
            able.conn_protocol
        server_port := ?_
        if_name := name.mpr able.if_name
        local_tun_ip6 := local6.mpr ⟨able.text, able.length⟩
        remote_tun_ip6 := ?_ }
    · cases missing : (h.ParseUInt16 "server_port").error with
      | true => exact able.server_port missing
      | false => rfl
    · refine tunIp6_eq_iff.mpr ?_
      rw [if_pos able.remote_tun_ip, remoteDefault]
      split
      · decide
      · decide

/--
For every accepted configuration: it is taken over exactly if each setting
can be.
-/
theorem takenOver_iff
    (documented : system.Documented)
    {context : Context}
    (accepted : InitByFile system h {} = some context) :
    TakenOver h context.detail ↔ CanBeTakenOver system h := by
  obtain ⟨readable, takes, rfl⟩ := InitByFile_eq_some_iff.mp accepted
  exact takenOver_initialised_iff documented readable takes

end TakenOver

def remoteFile (remote_tun_ip : String) : YamlHelper :=
  .ofSettings
    [("is_server", "true"), ("conn_key", "1"), ("conn_protocol", "udp"),
      ("server_ip_or_name", "10.0.0.1"), ("server_port", "1800"),
      ("tun.mtu", "1280"), ("tun.remote_tun_ip", remote_tun_ip)]

theorem remote_not_takenOver :
    ∃ context,
      InitByFile exampleSystem (remoteFile "10.0.0.9") {} =
          some context ∧
        context.detail.remote_tun_ip = "auto" ∧
        context.detail.remote_tun_ip6 = "64:ff9b::auto" ∧
        ¬ TakenOver (remoteFile "10.0.0.9") context.detail := by
  have initialised :
      (InitByFile exampleSystem (remoteFile "10.0.0.9") {}).map
          (fun context =>
            (context.detail.remote_tun_ip,
              context.detail.remote_tun_ip6)) =
        some ("auto", "64:ff9b::auto") := by
    decide +kernel
  obtain ⟨context, accepted, fields⟩ :=
    Option.map_eq_some_iff.mp initialised
  obtain ⟨remote, remote6⟩ := Prod.mk.inj fields
  refine ⟨context, accepted, remote, remote6, fun taken => ?_⟩
  have configured := taken.remote_tun_ip
  rw [remote] at configured
  revert configured
  decide +kernel

theorem exampleSystem_documented : exampleSystem.Documented where
  named := by
    intro wanted ifr_name named plain given
    simp only [exampleSystem] at given
    rw [if_neg (not_or.mpr ⟨named, plain⟩)] at given
    exact (Option.some.inj given).symm
  numbered := by
    intro wanted ifr_name given percent
    simp only [exampleSystem] at given
    split at given
    · cases given
    · rename_i plain
      rw [← Option.some.inj given] at percent
      exact plain (Or.inr percent)
  nameless _ := by simp [exampleSystem]

theorem takenOver_iff_auto :
    ∃ context,
      InitByFile exampleSystem (remoteFile "auto") {} = some context ∧
        TakenOver (remoteFile "auto") context.detail := by
  have initialised :
      (InitByFile exampleSystem (remoteFile "auto") {}).isSome := by
    decide +kernel
  obtain ⟨context, accepted⟩ := Option.isSome_iff_exists.mp initialised
  refine ⟨context, accepted,
    (takenOver_iff exampleSystem_documented accepted).mpr ?_⟩
  exact
    { remote_tun_ip := by decide +kernel
      mtu := fun _ => ⟨1280, by decide +kernel⟩
      conn_key := by decide +kernel
      conn_protocol := by decide +kernel
      server_port := by decide +kernel
      if_name := by
        change _ ∧ _ ∧ _
        decide +kernel
      text := by decide +kernel
      length := by decide +kernel }

/-- Nothing has failed. -/
structure Usable (system : System) (h : YamlHelper) : Prop where
  is_server : (h.ParseString "is_server").error = false
  conn_key : (h.ParseString "conn_key").error = false
  has_protocol : (h.ParseString "conn_protocol").error = false
  conn_protocol :
    (h.ParseString "conn_protocol").value = "udp" ∨
      (h.ParseString "conn_protocol").value = "tcp"
  server_ip_or_name : (h.ParseString "server_ip_or_name").error = false
  server_port : (h.ParseUInt16 "server_port").error = false
  resolved :
    system.resolve_ip (h.ParseString "server_ip_or_name").value ≠ none
  opened : 0 < (system.tun_create (wantedName h)).1
  mtu_set : TakesMtu system h

/-- None of the steps fails whose failure is not looked at. -/
structure UncheckedSucceed (system : System) (h : YamlHelper) : Prop where
  conn_protocol :
    (h.ParseString "conn_protocol").value = "udp" ∨
      (h.ParseString "conn_protocol").value = "tcp"
  server_port : (h.ParseUInt16 "server_port").error = false
  opened : 0 < (system.tun_create (wantedName h)).1

/-- For `InitByFile` and for `Create`: success is what they return. -/
def ReportsFailures
    (system : System)
    (h : YamlHelper)
    (device : TunDevice)
    (wanted_name : String) : Prop :=
  ((InitByFile system h {}).isSome → Usable system h) ∧
    ((device.Create system wanted_name).2 = true ↔
      0 < (system.tun_create wanted_name).1)

theorem isSome_InitByFile_iff
    {system : System}
    {h : YamlHelper} :
    (InitByFile system h {}).isSome ↔
      Readable system h ∧ TakesMtu system h := by
  rw [Option.isSome_iff_exists]
  constructor
  · rintro ⟨context, accepted⟩
    obtain ⟨readable, takes, _⟩ := InitByFile_eq_some_iff.mp accepted
    exact ⟨readable, takes⟩
  · rintro ⟨readable, takes⟩
    exact ⟨_, InitByFile_eq_some_iff.mpr ⟨readable, takes, rfl⟩⟩

/-- What is checked, and what is not, are the failures there are. -/
theorem usable_iff
    {system : System}
    {h : YamlHelper}
    (readable : Readable system h)
    (takes : TakesMtu system h) :
    Usable system h ↔ UncheckedSucceed system h := by
  constructor
  · intro usable
    exact ⟨usable.conn_protocol, usable.server_port, usable.opened⟩
  · intro unchecked
    exact
      { is_server := readable.is_server
        conn_key := readable.conn_key
        has_protocol := readable.conn_protocol
        conn_protocol := unchecked.conn_protocol
        server_ip_or_name := readable.server_ip_or_name
        server_port := unchecked.server_port
        resolved := readable.resolved
        opened := unchecked.opened
        mtu_set := takes }

/--
Failures are reported exactly if one that is checked comes with every one that
is not, and `Create` has a device to return.
-/
theorem reportsFailures_iff
    (system : System)
    (h : YamlHelper)
    (device : TunDevice)
    (wanted_name : String) :
    ReportsFailures system h device wanted_name ↔
      (Readable system h → TakesMtu system h →
          UncheckedSucceed system h) ∧
        0 < (system.tun_create wanted_name).1 := by
  rw [ReportsFailures, isSome_InitByFile_iff,
    iff_true_left (Create_true system device wanted_name)]
  refine and_congr_left' ?_
  constructor
  · intro reports readable takes
    exact (usable_iff readable takes).mp (reports ⟨readable, takes⟩)
  · rintro unchecked ⟨readable, takes⟩
    exact (usable_iff readable takes).mpr (unchecked readable takes)

def sctpFile : YamlHelper :=
  .ofSettings
    [("is_server", "true"), ("conn_key", "1"), ("conn_protocol", "sctp"),
      ("server_ip_or_name", "10.0.0.1")]

/-- There is no `/dev/net/tun`. -/
def systemWithoutTun : System :=
  { exampleSystem with dev_net_tun := -1 }

theorem failures_not_reported :
    (InitByFile exampleSystem sctpFile {}).isSome = true ∧
      ((TunDevice.mk "" none).Create systemWithoutTun "dsvpn").2 = true ∧
      (systemWithoutTun.tun_create "dsvpn").1 = -1 ∧
      ¬ ∀ system h device wanted_name,
        ReportsFailures system h device wanted_name := by
  have accepted : (InitByFile exampleSystem sctpFile {}).isSome = true := by
    decide +kernel
  refine ⟨accepted, rfl, rfl, fun reports => ?_⟩
  have usable :=
    (reports exampleSystem sctpFile ⟨"", none⟩ "dsvpn").1 accepted
  have protocol := usable.conn_protocol
  revert protocol
  decide +kernel

end Context

end Dsvpn
