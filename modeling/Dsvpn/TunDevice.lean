import Mathlib.Data.List.Infix
import Mathlib.Data.List.TakeWhile
import Mathlib.Tactic.Common

namespace Dsvpn

/-!
# The TUN device

`TunDevice::Create` and `SetMTU`, with the `tun_create` of each platform.  What
they ask of the system is a parameter, and so are the name lookup and the
default route that the configuration needs.  The characters of a text are its
bytes.
-/

/--
`snprintf` of a text into an array of `size` bytes; the text ends at its first
zero byte.
-/
def snprintf (size : Nat) (text : String) : String :=
  String.ofList
    ((text.toList.takeWhile (· != Char.ofNat 0)).take (size - 1))

def IFNAMSIZ : Nat := 16

/-- The platforms for which `TUN_PACKET_HL` is defined. -/
inductive Platform where
  | linux
  | apple
  deriving Repr, DecidableEq

/--
What the code asks of the system; a descriptor of -1 is a failure.  On Linux
`dev_net_tun` is the descriptor of `/dev/net/tun`, and `TUNSETIFF` makes a
device and gives its name.  On macOS `control_socket` is the descriptor for the
attempt with a unit, and `CTLIOCGINFO` and `connect` say whether the calls on
it succeed.  `SIOCSIFMTU` says whether the driver takes the MTU.
-/
structure System where
  platform : Platform
  resolve_ip : String → Option String
  dev_net_tun : Int
  TUNSETIFF : String → Option String
  control_socket : Nat → Int
  CTLIOCGINFO : Nat → Bool
  connect : Nat → Bool
  SIOCSIFMTU : String → Int → Bool
  GetDefaultInterfaceName : String
  GetDefaultGatewayIp : String

/-- The descriptor and, if there is one, the name of the device. -/
def TunDeviceImplLinux.tun_create
    (system : System)
    (wanted_name : String) : Int × String :=
  if system.dev_net_tun = -1 then
    (-1, "")
  else
    match system.TUNSETIFF (snprintf IFNAMSIZ wanted_name) with
    | none => (-1, "")
    | some ifr_name => (system.dev_net_tun, snprintf IFNAMSIZ ifr_name)

namespace TunDeviceImplOSX

def tun_create_by_id
    (system : System)
    (id : Nat) : Int × String :=
  if system.control_socket id = -1 then
    (-1, "")
  else if !system.CTLIOCGINFO id then
    (-1, "")
  else if !system.connect id then
    (-1, "")
  else
    (system.control_socket id, "utun" ++ toString id)

/-- The first of the 32 units that can be had. -/
def unit? (system : System) : Option Nat :=
  (List.range 32).find? fun id => (tun_create_by_id system id).1 ≠ -1

/-- The name that is asked for is not looked at. -/
def tun_create
    (system : System)
    (_wanted_name : String) : Int × String :=
  match unit? system with
  | none => (-1, "")
  | some id => tun_create_by_id system id

end TunDeviceImplOSX

def System.tun_create
    (system : System)
    (wanted_name : String) : Int × String :=
  match system.platform with
  | .linux => TunDeviceImplLinux.tun_create system wanted_name
  | .apple => TunDeviceImplOSX.tun_create system wanted_name

structure TunDevice where
  tun_name : String
  tun_fd : Option Int
  deriving Repr, DecidableEq

namespace TunDevice

/--
Both branches return a value other than zero, which as a `bool` is `true`.
-/
def Create
    (system : System)
    (self : TunDevice)
    (wanted_name : String) : TunDevice × Bool :=
  let (fd, if_name) := system.tun_create wanted_name
  if fd > 0 then
    (⟨if_name, some fd⟩, true)
  else
    (self, true)

def SetMTU
    (system : System)
    (self : TunDevice)
    (mtu : Int) : Bool :=
  system.SIOCSIFMTU (snprintf IFNAMSIZ self.tun_name) mtu

end TunDevice

section

variable
    {size : Nat}
    {text beginning : String}

theorem toList_snprintf :
    (snprintf size text).toList =
      (text.toList.takeWhile (· != Char.ofNat 0)).take (size - 1) :=
  String.toList_ofList

theorem mem_snprintf
    {char : Char}
    (member : char ∈ (snprintf size text).toList) :
    char ∈ text.toList ∧ char ≠ Char.ofNat 0 := by
  rw [toList_snprintf] at member
  have before := List.mem_of_mem_take member
  exact
    ⟨(List.takeWhile_sublist _).subset before,
      by simpa using List.mem_takeWhile_imp before⟩

/-- What has been printed once is printed again as it is. -/
theorem snprintf_snprintf :
    snprintf size (snprintf size text) = snprintf size text := by
  have unbroken :
      (snprintf size text).toList.takeWhile (· != Char.ofNat 0) =
        (snprintf size text).toList := by
    rw [List.takeWhile_eq_self_iff]
    intro char member
    simpa using (mem_snprintf member).2
  rw [← String.toList_inj, toList_snprintf, unbroken, toList_snprintf,
    List.take_take, Nat.min_self]

/-- The beginning of a text is printed if nothing in it ends the output. -/
theorem prefix_snprintf_iff
    (begins : beginning.toList <+: text.toList) :
    beginning.toList <+: (snprintf size text).toList ↔
      Char.ofNat 0 ∉ beginning.toList ∧
        beginning.length ≤ size - 1 := by
  rw [toList_snprintf, List.prefix_take_iff, String.length_toList]
  refine and_congr_left' ?_
  constructor
  · intro kept zero
    have nonzero := List.mem_takeWhile_imp (kept.subset zero)
    simp at nonzero
  · intro nonzero
    obtain ⟨rest, split⟩ := begins
    rw [← split, List.takeWhile_append_of_pos]
    · exact List.prefix_append _ _
    · intro char member
      rw [bne_iff_ne]
      rintro rfl
      exact nonzero member

end

/-- The name that is in effect when this one was asked for. -/
def deviceName (system : System) (wanted : String) : String :=
  if (system.tun_create wanted).1 > 0 then
    (system.tun_create wanted).2
  else
    ""

/--
What is documented of the calls.  The driver makes a device of the name it is
given, where `%d` stands for a number and no name stands for `tun%d`; and there
is no device without a name.
-/
structure System.Documented (system : System) : Prop where
  named :
    ∀ {wanted ifr_name},
      wanted ≠ "" →
      '%' ∉ wanted.toList →
      system.TUNSETIFF wanted = some ifr_name →
      ifr_name = wanted
  numbered :
    ∀ {wanted ifr_name},
      system.TUNSETIFF wanted = some ifr_name →
      '%' ∉ ifr_name.toList
  nameless : ∀ mtu, system.SIOCSIFMTU "" mtu = false

/--
The prefixes that the name of the device can have: on Linux a name is at most
15 characters long, on macOS it is given by the first unit that can be had.
-/
def System.CanName (system : System) (beginning : String) : Prop :=
  match system.platform with
  | .linux =>
      Char.ofNat 0 ∉ beginning.toList ∧ '%' ∉ beginning.toList ∧
        beginning.length ≤ 15
  | .apple =>
      ∃ id, TunDeviceImplOSX.unit? system = some id ∧
        beginning.toList <+: ("utun" ++ toString id).toList

section

variable
    {system : System}
    {wanted beginning : String}

/-- On Linux the driver gave the name, which is printed again. -/
theorem TunDeviceImplLinux.tun_create_cases
    (opened : 0 < (tun_create system wanted).1) :
    ∃ ifr_name,
      system.TUNSETIFF (snprintf IFNAMSIZ wanted) = some ifr_name ∧
        (tun_create system wanted).2 = snprintf IFNAMSIZ ifr_name := by
  revert opened
  unfold tun_create
  split
  · intro opened
    exact absurd opened (by decide)
  · split
    · intro opened
      exact absurd opened (by decide)
    · rename_i ifr_name given
      exact fun _ => ⟨ifr_name, given, rfl⟩

theorem TunDeviceImplOSX.tun_create_cases
    (opened : 0 < (tun_create system wanted).1) :
    ∃ id, unit? system = some id ∧
      (tun_create system wanted).2 = "utun" ++ toString id := by
  cases found : unit? system with
  | none =>
      have failed : tun_create system wanted = (-1, "") := by
        rw [tun_create, found]
      rw [failed] at opened
      exact absurd opened (by decide)
  | some id =>
      have made : tun_create system wanted = tun_create_by_id system id := by
        rw [tun_create, found]
      rw [made] at opened ⊢
      refine ⟨id, rfl, ?_⟩
      unfold tun_create_by_id at opened ⊢
      split_ifs at opened ⊢
      · exact absurd opened (by decide)
      · exact absurd opened (by decide)
      · exact absurd opened (by decide)
      · rfl

/-- Where no device was made, the driver takes no MTU for it. -/
theorem System.Documented.opened
    (documented : system.Documented)
    {mtu : Int}
    (takes :
      system.SIOCSIFMTU (snprintf IFNAMSIZ (deviceName system wanted))
          mtu =
        true) :
    0 < (system.tun_create wanted).1 := by
  by_contra failed
  rw [deviceName, if_neg failed] at takes
  have refused := documented.nameless mtu
  exact absurd (refused.symm.trans takes) Bool.false_ne_true

/--
The device that is made for a name keeps a prefix of it, unless the prefix has
a character that is not printed or is too long for the platform.
-/
theorem System.Documented.prefix_deviceName_iff
    (documented : system.Documented)
    (opened : 0 < (system.tun_create wanted).1)
    (begins : beginning.toList <+: wanted.toList)
    (plain : '%' ∈ wanted.toList → '%' ∈ beginning.toList) :
    beginning.toList <+: (deviceName system wanted).toList ↔
      system.CanName beginning := by
  rw [deviceName, if_pos opened]
  unfold System.tun_create System.CanName at *
  cases platform : system.platform with
  | apple =>
      simp only [platform] at opened ⊢
      obtain ⟨id, found, name⟩ :=
        TunDeviceImplOSX.tun_create_cases opened
      rw [name, found]
      constructor
      · exact fun same => ⟨id, rfl, same⟩
      · rintro ⟨other, same, isPrefix⟩
        rwa [Option.some.inj same]
  | linux =>
      simp only [platform] at opened ⊢
      obtain ⟨ifr_name, given, name⟩ :=
        TunDeviceImplLinux.tun_create_cases opened
      rw [name]
      constructor
      · intro kept
        refine ⟨fun zero => ?_, fun percent => ?_, ?_⟩
        · exact (mem_snprintf (kept.subset zero)).2 rfl
        · exact documented.numbered given
            (mem_snprintf (kept.subset percent)).1
        · have short := kept.length_le
          rw [toList_snprintf, String.length_toList] at short
          exact short.trans (List.length_take_le _ _)
      · rintro ⟨nonzero, noPercent, short⟩
        have printed :=
          (prefix_snprintf_iff begins : _ ↔ _ ∧ _ ≤ IFNAMSIZ - 1).mpr
            ⟨nonzero, short⟩
        by_cases empty : snprintf IFNAMSIZ wanted = ""
        · rw [empty, String.toList_empty, List.prefix_nil] at printed
          rw [printed]
          exact List.nil_prefix
        · have same :=
            documented.named empty
              (fun percent =>
                noPercent (plain (mem_snprintf percent).1))
              given
          rwa [same, snprintf_snprintf]

end

end Dsvpn
