import Dsvpn.TunDevice
import Mathlib.Algebra.Ring.Int.Defs
import Mathlib.Algebra.Ring.Nat
import Mathlib.Data.List.Basic
import Mathlib.Tactic.Common

namespace Dsvpn

/-!
# The configuration of a client or server

`Context::InitByFile` takes its settings from the configuration file, fills in
the rest, and opens the TUN device.  What it asks of the system is a
parameter: the name lookup, the device driver and the default route.
-/

def isspace (char : Char) : Bool :=
  char.toNat = 32 || (9 ≤ char.toNat && char.toNat ≤ 13)

/-- A number that is out of range becomes the nearest `long`. -/
def strtol (text : List Char) : Int :=
  let (negative, digits) :=
    match text.dropWhile isspace with
    | '-' :: rest => (true, rest)
    | '+' :: rest => (false, rest)
    | rest => (false, rest)
  let magnitude : Nat :=
    (digits.takeWhile Char.isDigit).foldl
      (fun value digit => 10 * value + (digit.toNat - 48)) 0
  if negative then
    max (-2 ^ 63) (-magnitude)
  else
    min (2 ^ 63 - 1) magnitude

/-- The low half of the `long`, as an `int`. -/
def atoi (text : String) : Int :=
  (strtol text.toList).bmod (2 ^ 32)

/-- Conversion of an `int` to `uint32_t`. -/
def uint32 (value : Int) : Nat :=
  (value % 2 ^ 32).toNat

/-- With an error, `value` is what a new `ReturnValue` holds. -/
structure ReturnValue (ValueType : Type) where
  value : ValueType
  error : Bool
  deriving Repr, DecidableEq

/-- The instances of `Parse` on the file that was loaded. -/
structure YamlHelper where
  ParseString : String → ReturnValue String
  ParseUInt16 : String → ReturnValue UInt16

inductive ConnProtocolType where
  | UDP
  | TCP
  | UTCP
  deriving Repr, DecidableEq

/-- `context_detail`, with the values of a new context. -/
structure ContextDetail where
  is_server : Bool := false
  ext_if_name : String := "auto"
  gateway_ip : String := "auto"
  tun_if_name : String := ""
  local_tun_ip : String := "auto"
  remote_tun_ip : String := "auto"
  local_tun_ip6 : String := "auto"
  remote_tun_ip6 : String := "auto"
  server_ip_or_name : String := "auto"
  server_ip_resolved : String := "auto"
  mtu : Nat := 1500 - 52
  conn_key : String := "12345678"
  server_port : UInt16 := 1800
  conn_protocol : ConnProtocolType := .UDP
  ipv6 : Bool := false
  deriving Repr, DecidableEq

def DEFAULT_TUN_IFNAME : String := "dsvpn"

def DEFAULT_CLIENT_IP : String := "192.168.192.100"

def DEFAULT_SERVER_IP : String := "192.168.192.1"

namespace TunDevice

/-- `tun_setup` runs its commands and returns `true` whatever they do. -/
def Setup
    (system : System)
    (self : TunDevice)
    (detail : ContextDetail) : Bool :=
  self.SetMTU system ((detail.mtu : Int).bmod (2 ^ 32))

end TunDevice

structure Context where
  detail : ContextDetail := {}
  tun_device : TunDevice := ⟨"", none⟩
  deriving Repr, DecidableEq

namespace Context

/-- `snprintf` into an array of 40 bytes, of the text up to a zero byte. -/
def tunIp6 (tun_ip : String) : String :=
  let c_str := tun_ip.toList.takeWhile (· != Char.ofNat 0)
  String.ofList (("64:ff9b::".toList ++ c_str).take 39)

/-! The settings, in the order of `InitByFile`; `none` is `false`. -/

/-- A key that is missing, or left to the program. -/
def isAuto (res : ReturnValue String) : Bool :=
  res.error || (!res.error && res.value == "auto")

def readIsServer
    (system : System)
    (h : YamlHelper)
    (detail : ContextDetail) : Option ContextDetail :=
  let res := h.ParseString "is_server"
  if res.error then
    none
  else if res.value == "true" && system.platform != .linux then
    none
  else
    some { detail with is_server := res.value == "true" }

def readIpv6
    (h : YamlHelper)
    (detail : ContextDetail) : ContextDetail :=
  let res := h.ParseString "ipv6"
  if res.error || (!res.error && res.value == "true") then
    { detail with ipv6 := true }
  else
    detail

def readMtu
    (h : YamlHelper)
    (detail : ContextDetail) : ContextDetail :=
  let res := h.ParseString "tun.mtu"
  if isAuto res then
    detail
  else
    { detail with mtu := uint32 (atoi res.value) }

def readLocalTunIp
    (h : YamlHelper)
    (detail : ContextDetail) : ContextDetail :=
  let res := h.ParseString "tun.local_tun_ip"
  if isAuto res then
    { detail with
      local_tun_ip :=
        if detail.is_server then
          DEFAULT_SERVER_IP
        else
          DEFAULT_CLIENT_IP }
  else
    { detail with local_tun_ip := res.value }

/-- Another value than `auto` is not taken over. -/
def readRemoteTunIp
    (h : YamlHelper)
    (detail : ContextDetail) : ContextDetail :=
  let res := h.ParseString "tun.remote_tun_ip"
  if isAuto res then
    { detail with
      remote_tun_ip :=
        if detail.is_server then
          DEFAULT_CLIENT_IP
        else
          DEFAULT_SERVER_IP }
  else
    detail

def readTunIp6 (detail : ContextDetail) : ContextDetail :=
  { detail with
    local_tun_ip6 := tunIp6 detail.local_tun_ip
    remote_tun_ip6 := tunIp6 detail.remote_tun_ip }

def readConnKey
    (h : YamlHelper)
    (detail : ContextDetail) : Option ContextDetail :=
  let res := h.ParseString "conn_key"
  if res.error then
    none
  else
    some { detail with conn_key := res.value }

/-- A value that is none of the three leaves the protocol as it is. -/
def readConnProtocol
    (h : YamlHelper)
    (detail : ContextDetail) : Option ContextDetail :=
  let res := h.ParseString "conn_protocol"
  if res.error then
    none
  else if res.value == "udp" then
    some { detail with conn_protocol := .UDP }
  else if res.value == "tcp" then
    some { detail with conn_protocol := .TCP }
  else if res.value == "utcp" then
    none
  else
    some detail

def readServerIp
    (system : System)
    (h : YamlHelper)
    (detail : ContextDetail) : Option ContextDetail :=
  let res := h.ParseString "server_ip_or_name"
  if res.error then
    none
  else
    (system.resolve_ip res.value).map fun ip =>
      { detail with
        server_ip_or_name := res.value
        server_ip_resolved := ip }

/--
The check behind this lookup looks at the error of the lookup before it, which
was none.
-/
def readServerPort
    (h : YamlHelper)
    (detail : ContextDetail) : ContextDetail :=
  { detail with server_port := (h.ParseUInt16 "server_port").value }

def readTunIfName
    (h : YamlHelper)
    (detail : ContextDetail) : ContextDetail :=
  let res := h.ParseString "tun.if_name"
  let name := if isAuto res then DEFAULT_TUN_IFNAME else res.value
  { detail with
    tun_if_name :=
      if detail.is_server then
        name ++ toString detail.server_port.toNat
      else
        name }

/-- `InitByFile` up to the creation of the TUN device. -/
def readFile
    (system : System)
    (h : YamlHelper)
    (detail : ContextDetail) : Option ContextDetail := do
  let detail ← readIsServer system h detail
  let detail := readIpv6 h detail
  let detail := readMtu h detail
  let detail := readLocalTunIp h detail
  let detail := readRemoteTunIp h detail
  let detail := readTunIp6 detail
  let detail ← readConnKey h detail
  let detail ← readConnProtocol h detail
  let detail ← readServerIp system h detail
  let detail := readServerPort h detail
  some (readTunIfName h detail)

/-- The rest of `InitByFile`. -/
def openTun
    (system : System)
    (self : Context) : Option Context :=
  let (tun_device, tunRes) :=
    self.tun_device.Create system self.detail.tun_if_name
  if !tunRes then
    none
  else
  let detail := { self.detail with tun_if_name := tun_device.tun_name }
  if !tun_device.Setup system detail then
    none
  else
  let detail :=
    if detail.is_server then
      { detail with
        ext_if_name := system.GetDefaultInterfaceName
        gateway_ip := system.GetDefaultGatewayIp }
    else
      detail
  some ⟨detail, tun_device⟩

/-- `none` is the result `false`. -/
def InitByFile
    (system : System)
    (h : YamlHelper)
    (self : Context) : Option Context := do
  let detail ← readFile system h self.detail
  openTun system { self with detail := detail }

/-- The MTU that the configuration asks for. -/
def configuredMtu (h : YamlHelper) : Nat :=
  let res := h.ParseString "tun.mtu"
  if isAuto res then
    1500 - 52
  else
    uint32 (atoi res.value)

section Settings

variable
    {system : System}
    {h : YamlHelper}
    {detail result : ContextDetail}

theorem readIsServer_only
    (read : readIsServer system h detail = some result) :
    result = { detail with is_server := result.is_server } := by
  simp only [readIsServer] at read
  split at read
  · cases read
  · split at read
    · cases read
    · obtain rfl := Option.some.inj read
      rfl

theorem readIpv6_only :
    readIpv6 h detail =
      { detail with ipv6 := (readIpv6 h detail).ipv6 } := by
  simp only [readIpv6]
  split <;> rfl

theorem readMtu_only :
    readMtu h detail =
      { detail with mtu := (readMtu h detail).mtu } := by
  simp only [readMtu]
  split <;> rfl

theorem readLocalTunIp_only :
    readLocalTunIp h detail =
      { detail with
        local_tun_ip := (readLocalTunIp h detail).local_tun_ip } := by
  simp only [readLocalTunIp]
  split <;> rfl

theorem readRemoteTunIp_only :
    readRemoteTunIp h detail =
      { detail with
        remote_tun_ip := (readRemoteTunIp h detail).remote_tun_ip } := by
  simp only [readRemoteTunIp]
  split <;> rfl

theorem readConnKey_only
    (read : readConnKey h detail = some result) :
    result = { detail with conn_key := result.conn_key } := by
  simp only [readConnKey] at read
  split at read
  · cases read
  · obtain rfl := Option.some.inj read
    rfl

theorem readConnProtocol_only
    (read : readConnProtocol h detail = some result) :
    result = { detail with conn_protocol := result.conn_protocol } := by
  simp only [readConnProtocol] at read
  split at read
  · cases read
  · split at read
    · obtain rfl := Option.some.inj read
      rfl
    · split at read
      · obtain rfl := Option.some.inj read
        rfl
      · split at read
        · cases read
        · obtain rfl := Option.some.inj read
          rfl

theorem readServerIp_only
    (read : readServerIp system h detail = some result) :
    result =
      { detail with
        server_ip_or_name := result.server_ip_or_name
        server_ip_resolved := result.server_ip_resolved } := by
  simp only [readServerIp] at read
  split at read
  · cases read
  · obtain ⟨ip, _, rfl⟩ := Option.map_eq_some_iff.mp read
    rfl

theorem readConnProtocol_ne_UTCP
    (supported : detail.conn_protocol ≠ .UTCP)
    (read : readConnProtocol h detail = some result) :
    result.conn_protocol ≠ .UTCP := by
  simp only [readConnProtocol] at read
  split at read
  · cases read
  · split at read
    · obtain rfl := Option.some.inj read
      exact nofun
    · split at read
      · obtain rfl := Option.some.inj read
        exact nofun
      · split at read
        · cases read
        · obtain rfl := Option.some.inj read
          exact supported

/-- No later setting changes the MTU, and `utcp` is refused. -/
theorem readFile_settings
    (read : readFile system h detail = some result) :
    result.mtu = (readMtu h detail).mtu ∧
      (detail.conn_protocol ≠ .UTCP → result.conn_protocol ≠ .UTCP) := by
  simp only [readFile, Option.bind_eq_bind, Option.bind_eq_some_iff,
    Option.some.injEq] at read
  obtain ⟨first, isServer, second, key, third, protocol,
    fourth, server, rfl⟩ := read
  let before :=
    readRemoteTunIp h (readLocalTunIp h (readMtu h (readIpv6 h first)))
  have keyOnly :
      second =
        { readTunIp6 before with conn_key := second.conn_key } :=
    readConnKey_only key
  have startOnly := readIsServer_only isServer
  have protocolOnly := readConnProtocol_only protocol
  have serverOnly := readServerIp_only server
  constructor
  · calc
      (readTunIfName h (readServerPort h fourth)).mtu
      _ = third.mtu := (congrArg ContextDetail.mtu serverOnly :)
      _ = second.mtu := (congrArg ContextDetail.mtu protocolOnly :)
      _ = before.mtu := (congrArg ContextDetail.mtu keyOnly :)
      _ = (readLocalTunIp h (readMtu h (readIpv6 h first))).mtu :=
        (congrArg ContextDetail.mtu readRemoteTunIp_only :)
      _ = (readMtu h (readIpv6 h first)).mtu :=
        (congrArg ContextDetail.mtu readLocalTunIp_only :)
      _ = (readMtu h detail).mtu := by
        have start : (readIpv6 h first).mtu = detail.mtu :=
          (congrArg ContextDetail.mtu readIpv6_only :).trans
            (congrArg ContextDetail.mtu startOnly :)
        simp only [readMtu]
        split
        · exact start
        · rfl
  · intro supported
    have unread : second.conn_protocol = detail.conn_protocol :=
      calc
        second.conn_protocol
        _ = before.conn_protocol :=
          (congrArg ContextDetail.conn_protocol keyOnly :)
        _ = (readLocalTunIp h (readMtu h (readIpv6 h first))).conn_protocol :=
          (congrArg ContextDetail.conn_protocol readRemoteTunIp_only :)
        _ = (readMtu h (readIpv6 h first)).conn_protocol :=
          (congrArg ContextDetail.conn_protocol readLocalTunIp_only :)
        _ = (readIpv6 h first).conn_protocol :=
          (congrArg ContextDetail.conn_protocol readMtu_only :)
        _ = first.conn_protocol :=
          (congrArg ContextDetail.conn_protocol readIpv6_only :)
        _ = detail.conn_protocol :=
          (congrArg ContextDetail.conn_protocol startOnly :)
    have chosen :=
      readConnProtocol_ne_UTCP (unread ▸ supported) protocol
    have kept :
        (readTunIfName h (readServerPort h fourth)).conn_protocol =
          third.conn_protocol :=
      (congrArg ContextDetail.conn_protocol serverOnly :)
    rw [kept]
    exact chosen

end Settings

/-- The device gets its name, and on the server the default route is read. -/
theorem openTun_settings
    {system : System}
    {self result : Context}
    (opened : openTun system self = some result) :
    result.detail.mtu = self.detail.mtu ∧
      result.detail.conn_protocol = self.detail.conn_protocol := by
  simp only [openTun] at opened
  split at opened
  · cases opened
  · split at opened
    · cases opened
    · obtain rfl := Option.some.inj opened
      simp only
      split
      · exact ⟨rfl, rfl⟩
      · exact ⟨rfl, rfl⟩

section Accepted

variable
    {system : System}
    {h : YamlHelper}
    {context : Context}

theorem InitByFile_cases
    (accepted : InitByFile system h {} = some context) :
    ∃ detail,
      readFile system h {} = some detail ∧
        openTun system { detail := detail } = some context := by
  simp only [InitByFile, Option.bind_eq_bind,
    Option.bind_eq_some_iff] at accepted
  exact accepted

/-- The MTU in effect is the one the configuration asks for. -/
theorem InitByFile_mtu
    (accepted : InitByFile system h {} = some context) :
    context.detail.mtu = configuredMtu h := by
  obtain ⟨detail, read, opened⟩ := InitByFile_cases accepted
  rw [(openTun_settings opened).1, (readFile_settings read).1]
  simp only [readMtu, configuredMtu]
  split
  · rfl
  · rfl

/-- The protocol is one that a connection exists for. -/
theorem InitByFile_conn_protocol
    (accepted : InitByFile system h {} = some context) :
    context.detail.conn_protocol ≠ .UTCP := by
  obtain ⟨detail, read, opened⟩ := InitByFile_cases accepted
  rw [(openTun_settings opened).2]
  exact (readFile_settings read).2 nofun

end Accepted

end Context

end Dsvpn
