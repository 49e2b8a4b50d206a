import Dsvpn.Context
import Dsvpn.Text

namespace Dsvpn

/-!
# Dotted paths in the configuration

`YamlHelper::Parse` splits its argument at the dots and looks the components
up in the tree that yaml-cpp has loaded.  The tree stays as it was loaded, and
yaml-cpp is a parameter: its `operator[]` yields the child of a map, and
otherwise an undefined node or an exception; `as` throws on an undefined node.
-/

/-- At least one component, none of them with a dot. -/
structure DottedPath where
  components : List String
  nonempty : components ≠ []
  undotted : ∀ component ∈ components, '.' ∉ component.toList

def DottedPath.text (path : DottedPath) : String :=
  ".".intercalate path.components

/-- `boost::split` at every dot; adjacent dots are not merged. -/
def split (nodes : String) : List String :=
  (nodes.toList.splitOn '.').map String.ofList

theorem split_text (path : DottedPath) :
    split path.text = path.components := by
  have undotted :
      ∀ piece ∈ path.components.map String.toList, '.' ∉ piece := by
    simpa using path.undotted
  have nonempty : path.components.map String.toList ≠ [] := by
    simpa using path.nonempty
  rw [split, DottedPath.text, String.toList_intercalate,
    show ".".toList = ['.'] from rfl,
    List.splitOn_intercalate '.' undotted nonempty, List.map_map]
  simp

/-- Every argument of `Parse` is the text of a path. -/
theorem exists_text (nodes : String) :
    ∃ path : DottedPath, path.text = nodes := by
  let path : DottedPath :=
    { components := split nodes
      nonempty := by simp [split]
      undotted := by
        intro component member
        obtain ⟨piece, inText, rfl⟩ := List.mem_map.mp member
        rw [String.toList_ofList]
        exact Text.not_mem_of_mem_splitOn inText }
  refine ⟨path, ?_⟩
  have pieces :
      path.components.map String.toList = nodes.toList.splitOn '.' := by
    simp [path, split, Function.comp_def]
  rw [← String.toList_inj, DottedPath.text, String.toList_intercalate,
    pieces]
  exact List.intercalate_splitOn '.'

/--
What `Parse` uses of yaml-cpp, on a loaded tree: `child` says what is below a
node.  A node on which `operator[]` throws is no map.
-/
structure YamlCpp (Node Exception : Type) where
  child : Node → String → Option Node
  Undefined : Node → Prop
  newNode : Node
  subscript : Node → String → Except Exception Node
  subscript_child :
    ∀ {node name next},
      child node name = some next →
      subscript node name = .ok next
  subscript_missing :
    ∀ {node name next},
      child node name = none →
      subscript node name = .ok next →
      Undefined next
  throws_childless :
    ∀ {node name exception},
      subscript node name = .error exception →
      ∀ other, child node other = none
  undefined_childless :
    ∀ {node},
      Undefined node →
      ∀ name, child node name = none

/-- `as<ValueType>()`. -/
structure YamlCpp.Conversion
    {Node Exception : Type}
    (yaml : YamlCpp Node Exception)
    (ValueType : Type) where
  as : Node → Except Exception ValueType
  undefined_throws :
    ∀ {node value},
      yaml.Undefined node →
      as node ≠ .ok value

namespace ReturnValue

variable {Exception ValueType : Type}

/-- The end of a `try` block; every exception is caught. -/
def ofTry
    (value : ValueType) :
    Except Exception ValueType → ReturnValue ValueType
  | .ok parsed => ⟨parsed, false⟩
  | .error _ => ⟨value, true⟩

def ofFound (value : ValueType) : Option ValueType → ReturnValue ValueType
  | some found => ⟨found, false⟩
  | none => ⟨value, true⟩

/-- What is found is returned, and nothing else is without an error. -/
def Reports
    (result : ReturnValue ValueType) : Option ValueType → Prop
  | some value => result.value = value ∧ result.error = false
  | none => result.error = true

instance decidableReports
    [DecidableEq ValueType]
    (result : ReturnValue ValueType)
    (found : Option ValueType) :
    Decidable (result.Reports found) :=
  match found with
  | some _ => inferInstanceAs (Decidable (_ ∧ _))
  | none => inferInstanceAs (Decidable (_ = _))

theorem ofTry_eq
    (value : ValueType)
    (parsed : Except Exception ValueType) :
    ofTry value parsed = ofFound value parsed.toOption := by
  cases parsed <;> rfl

theorem ofFound_reports_iff
    {value : ValueType}
    {found expected : Option ValueType} :
    (ofFound value found).Reports expected ↔ found = expected := by
  cases found with
  | some found => cases expected <;> simp [ofFound, Reports]
  | none => cases expected <;> simp [ofFound, Reports]

end ReturnValue

section

variable
    {Node Exception ValueType : Type}
    {yaml : YamlCpp Node Exception}

/-- `value` is what a new `ReturnValue` holds. -/
def YamlHelper.Parse
    (as : yaml.Conversion ValueType)
    (root : Node)
    (value : ValueType)
    (nodes : String) : ReturnValue ValueType :=
  match split nodes with
  | [] =>
      ⟨value, true⟩
  | [name] =>
      .ofTry value do
        let node ← yaml.subscript root name
        as.as node
  | first :: second :: rest =>
      let node := first :: second :: rest
      .ofTry value do
        -- Each component is looked up in the root, not in `subnode`.
        let subnode ←
          node.dropLast.foldlM
            (fun _ nodeName => yaml.subscript root nodeName)
            yaml.newNode
        let last ← yaml.subscript subnode (node.getLast (by simp))
        as.as last

namespace YamlCpp

/-- The node that is reached by following the components in order. -/
def follow
    (yaml : YamlCpp Node Exception)
    (root : Node)
    (names : List String) : Option Node :=
  names.foldlM yaml.child root

/-- The value of the node that is reached, if there is one. -/
def Conversion.valueAt
    (as : yaml.Conversion ValueType)
    (root : Node)
    (names : List String) : Option ValueType := do
  let node ← yaml.follow root names
  (as.as node).toOption

variable
    {as : yaml.Conversion ValueType}
    {root node : Node}

theorem Conversion.valueAt_cons
    (name : String)
    (names : List String) :
    as.valueAt root (name :: names) =
      (yaml.child root name).bind fun next => as.valueAt next names := by
  simp only [Conversion.valueAt, follow, List.foldlM_cons,
    Option.bind_eq_bind, Option.bind_assoc]

/-- There is nothing below an undefined node, and no value in it. -/
theorem Conversion.valueAt_undefined
    (undefined : yaml.Undefined node)
    (names : List String) :
    as.valueAt node names = none := by
  cases names with
  | nil =>
      cases parsed : as.as node with
      | ok value => exact (as.undefined_throws undefined parsed).elim
      | error exception =>
          simp [Conversion.valueAt, follow, parsed, Except.toOption]
  | cons name names =>
      rw [Conversion.valueAt_cons,
        yaml.undefined_childless undefined name]
      rfl

/-- Chained uses of `operator[]` follow the path. -/
theorem Conversion.toOption_subscripts
    (as : yaml.Conversion ValueType)
    (node : Node)
    (names : List String) :
    (names.foldlM yaml.subscript node >>= as.as).toOption =
      as.valueAt node names := by
  induction names generalizing node with
  | nil => rfl
  | cons name names inductionHypothesis =>
      rw [List.foldlM_cons, Conversion.valueAt_cons]
      cases looked : yaml.subscript node name with
      | error exception =>
          rw [yaml.throws_childless looked name]
          rfl
      | ok next =>
          have below :
              (names.foldlM yaml.subscript next >>= as.as).toOption =
                as.valueAt next names :=
            inductionHypothesis next
          cases there : yaml.child node name with
          | some found =>
              have same := yaml.subscript_child there
              rw [looked, Except.ok.injEq] at same
              subst same
              exact below
          | none =>
              -- The code goes on from an undefined node.
              have undefined := yaml.subscript_missing there looked
              rw [Conversion.valueAt_undefined undefined] at below
              exact below

/-- The loop throws only if nothing is below the root. -/
theorem rootLoop_cases
    (yaml : YamlCpp Node Exception)
    (root start : Node)
    (names : List String) :
    (∃ last,
        names.foldlM (fun _ name => yaml.subscript root name) start =
          .ok last) ∨
      ∃ exception,
        names.foldlM (fun _ name => yaml.subscript root name) start =
            .error exception ∧
          ∀ name, yaml.child root name = none := by
  induction names generalizing start with
  | nil => exact Or.inl ⟨start, rfl⟩
  | cons name names inductionHypothesis =>
      rw [List.foldlM_cons]
      cases looked : yaml.subscript root name with
      | ok next => exact inductionHypothesis next
      | error exception =>
          exact Or.inr ⟨exception, rfl, yaml.throws_childless looked⟩

/-- After the loop, only its last component has an effect. -/
theorem Conversion.toOption_rootLoop
    (as : yaml.Conversion ValueType)
    (root start : Node)
    (before : List String)
    (parent last : String) :
    ((before ++ [parent]).foldlM
          (fun _ name => yaml.subscript root name) start >>=
        fun subnode => yaml.subscript subnode last >>= as.as).toOption =
      as.valueAt root [parent, last] := by
  rw [List.foldlM_append]
  rcases rootLoop_cases yaml root start before with
    ⟨node, looped⟩ | ⟨exception, looped, childless⟩
  · rw [looped, ← as.toOption_subscripts root [parent, last]]
    simp only [List.foldlM_cons, List.foldlM_nil, bind_pure, bind_assoc]
    rfl
  · rw [looped, Conversion.valueAt_cons, childless parent]
    rfl

end YamlCpp

/-- The last two components, or all there are. -/
def lastTwo (names : List String) : List String :=
  names.drop (names.length - 2)

theorem lastTwo_eq_self
    {names : List String}
    (short : names.length ≤ 2) :
    lastTwo names = names := by
  rw [lastTwo, Nat.sub_eq_zero_of_le short, List.drop_zero]

theorem lastTwo_append
    (before : List String)
    (parent last : String) :
    lastTwo (before ++ [parent, last]) = [parent, last] := by
  simp [lastTwo]

theorem exists_lastTwo
    {names : List String}
    (long : 2 ≤ names.length) :
    ∃ before parent last, names = before ++ [parent, last] := by
  have taken := List.take_append_drop (names.length - 2) names
  have two : (names.drop (names.length - 2)).length = 2 := by
    rw [List.length_drop]
    omega
  obtain ⟨parent, last, dropped⟩ := List.length_eq_two.mp two
  rw [dropped] at taken
  exact ⟨_, parent, last, taken.symm⟩

namespace YamlHelper

/-- `Parse` looks the last two components up, starting from the root. -/
theorem Parse_eq
    (as : yaml.Conversion ValueType)
    (root : Node)
    (value : ValueType)
    (nodes : String) :
    Parse as root value nodes =
      .ofFound value (as.valueAt root (lastTwo (split nodes))) := by
  unfold Parse
  split
  · rename_i none
    simp [split] at none
  · rename_i name one
    rw [ReturnValue.ofTry_eq, one, lastTwo_eq_self (by simp),
      ← as.toOption_subscripts root [name]]
    simp only [List.foldlM_cons, List.foldlM_nil, bind_pure]
  · rename_i first second rest many
    obtain ⟨before, parent, last, names⟩ :
        ∃ before parent last,
          first :: second :: rest = before ++ [parent, last] :=
      exists_lastTwo (by simp)
    simp only [many, names, ReturnValue.ofTry_eq]
    rw [lastTwo_append,
      ← as.toOption_rootLoop root yaml.newNode before parent last]
    simp

/-- A path of at most two components is followed. -/
theorem Parse_of_short
    (as : yaml.Conversion ValueType)
    (root : Node)
    (value : ValueType)
    {nodes : String}
    (short : (split nodes).length ≤ 2) :
    Parse as root value nodes =
      .ofFound value (as.valueAt root (split nodes)) := by
  rw [Parse_eq, lastTwo_eq_self short]

end YamlHelper

inductive Yaml where
  | scalar (text : String)
  | map (entries : List (String × Yaml))

namespace Yaml

/-- A node of such a tree; `none` is undefined. -/
def child : Option Yaml → String → Option (Option Yaml)
  | some (.map entries), name => (entries.lookup name).map some
  | _, _ => none

/-- A scalar throws `BadSubscript`. -/
def subscript : Option Yaml → String → Except Unit (Option Yaml)
  | some (.map entries), name => .ok (entries.lookup name)
  | some (.scalar _), _ => .error ()
  | none, _ => .ok none

def library : YamlCpp (Option Yaml) Unit where
  child := child
  Undefined node := node = none
  newNode := none
  subscript := subscript
  subscript_child := by
    intro node name next there
    cases node with
    | none => cases there
    | some tree =>
        cases tree with
        | scalar text => cases there
        | map entries =>
            obtain ⟨found, looked, rfl⟩ := Option.map_eq_some_iff.mp there
            exact congrArg Except.ok looked
  subscript_missing := by
    intro node name next absent looked
    cases node with
    | none => exact (Except.ok.inj looked).symm
    | some tree =>
        cases tree with
        | scalar text => cases looked
        | map entries =>
            rw [← Except.ok.inj looked]
            exact Option.map_eq_none_iff.mp absent
  throws_childless := by
    intro node name exception thrown other
    cases node with
    | none => cases thrown
    | some tree =>
        cases tree with
        | scalar text => rfl
        | map entries => cases thrown
  undefined_childless := by
    rintro node rfl name
    rfl

/-- `as<std::string>()`. -/
def string : library.Conversion String where
  as
    | some (.scalar text) => .ok text
    | _ => .error ()
  undefined_throws := by
    rintro node value rfl converted
    cases converted

/-- One map inside the other, down to a scalar. -/
def nested (text : String) : List String → Yaml
  | [] => .scalar text
  | name :: names => .map [(name, nested text names)]

theorem child_nested
    (text name other : String)
    (names : List String) :
    library.child (some (nested text (name :: names))) other =
      if other = name then some (some (nested text names)) else none := by
  by_cases same : other = name
  · simp [library, child, nested, same]
  · have different : (other == name) = false :=
      beq_eq_false_iff_ne.mpr same
    simp [library, child, nested, same, List.lookup_cons, different]

theorem valueAt_nested
    (text : String)
    (names : List String) :
    string.valueAt (some (nested text names)) names = some text := by
  induction names with
  | nil => rfl
  | cons name names inductionHypothesis =>
      rw [YamlCpp.Conversion.valueAt_cons, child_nested, if_pos rfl]
      exact inductionHypothesis

/-- Two components end at a map when the tree is deeper. -/
theorem valueAt_nested_pair
    (text first second third parent last : String)
    (names : List String) :
    string.valueAt
        (some (nested text (first :: second :: third :: names)))
        [parent, last] =
      none := by
  rw [YamlCpp.Conversion.valueAt_cons, child_nested]
  by_cases outer : parent = first
  · rw [if_pos outer, Option.bind_some,
      YamlCpp.Conversion.valueAt_cons, child_nested]
    by_cases inner : last = second
    · rw [if_pos inner]
      rfl
    · rw [if_neg inner]
      rfl
  · rw [if_neg outer]
    rfl

end Yaml

namespace YamlHelper

/--
The path has at most two components, or its last two lead from the root to
the same value as the whole path, or to none where it leads to none.
-/
def LastTwoSuffice
    (as : yaml.Conversion ValueType)
    (root : Node)
    (names : List String) : Prop :=
  names.length ≤ 2 ∨
    as.valueAt root (lastTwo names) = as.valueAt root names

/-- In every tree, `Parse` follows exactly these paths. -/
theorem Parse_follows_iff
    (as : yaml.Conversion ValueType)
    (root : Node)
    (value : ValueType)
    (path : DottedPath) :
    (Parse as root value path.text).Reports
        (as.valueAt root path.components) ↔
      LastTwoSuffice as root path.components := by
  rw [Parse_eq, ReturnValue.ofFound_reports_iff, split_text]
  constructor
  · exact Or.inr
  · rintro (short | same)
    · rw [lastTwo_eq_self short]
    · exact same

/-- One MTU for the server, and one for everything. -/
def exampleTree : Yaml :=
  .map
    [("server", Yaml.nested "1280" ["tun", "mtu"]),
      ("tun", Yaml.nested "9000" ["mtu"])]

def examplePath : DottedPath where
  components := ["server", "tun", "mtu"]
  nonempty := by simp
  undotted := by decide +kernel

theorem examplePath_not_followed :
    Parse Yaml.string (some exampleTree) "" examplePath.text =
        ⟨"9000", false⟩ ∧
      Yaml.string.valueAt (some exampleTree) examplePath.components =
        some "1280" ∧
      ¬ (Parse Yaml.string (some exampleTree) "" examplePath.text).Reports
        (Yaml.string.valueAt (some exampleTree)
          examplePath.components) := by
  decide +kernel

/-- A longer path is misread in some tree, whatever its components. -/
theorem follows_every_tree_iff
    (value : String)
    (path : DottedPath) :
    (∀ root,
        (Parse Yaml.string root value path.text).Reports
          (Yaml.string.valueAt root path.components)) ↔
      path.components.length ≤ 2 := by
  simp only [Parse_eq, ReturnValue.ofFound_reports_iff, split_text]
  constructor
  · intro follows
    by_contra long
    have three : 3 ≤ path.components.length := Nat.lt_of_not_le long
    obtain ⟨before, parent, last, names⟩ :=
      exists_lastTwo (Nat.le_of_succ_le three)
    obtain ⟨first, second, third, rest, deep⟩ :
        ∃ first second third rest,
          path.components = first :: second :: third :: rest := by
      match components : path.components, three with
      | first :: second :: third :: rest, _ =>
          exact ⟨first, second, third, rest, rfl⟩
    -- The last two components stop at a map, or are not there at all.
    have misread :
        Yaml.string.valueAt (some (Yaml.nested "" path.components))
            (lastTwo path.components) =
          none := by
      rw [names, lastTwo_append, ← names, deep]
      exact Yaml.valueAt_nested_pair "" first second third parent last rest
    have found :=
      follows (some (Yaml.nested "" path.components))
    rw [misread, Yaml.valueAt_nested] at found
    cases found
  · intro short root
    rw [lastTwo_eq_self short]

end YamlHelper

namespace YamlHelper

/-- `Parse` on a loaded tree. -/
def loaded
    (strings : yaml.Conversion String)
    (numbers : yaml.Conversion UInt16)
    (root : Node)
    (string : String)
    (number : UInt16) : YamlHelper where
  ParseString := Parse strings root string
  ParseUInt16 := Parse numbers root number

/-- What is found by following the path. -/
def following
    (strings : yaml.Conversion String)
    (numbers : yaml.Conversion UInt16)
    (root : Node)
    (string : String)
    (number : UInt16) : YamlHelper where
  ParseString nodes :=
    .ofFound string (strings.valueAt root (split nodes))
  ParseUInt16 nodes :=
    .ofFound number (numbers.valueAt root (split nodes))

/-- The configuration is what the paths in the file lead to. -/
theorem InitByFile_loaded
    (strings : yaml.Conversion String)
    (numbers : yaml.Conversion UInt16)
    (root : Node)
    (string : String)
    (number : UInt16)
    (system : System)
    (self : Context) :
    Context.InitByFile system
        (loaded strings numbers root string number) self =
      Context.InitByFile system
        (following strings numbers root string number) self := by
  have followed
      (nodes : String)
      (short : (split nodes).length ≤ 2) :
      (loaded strings numbers root string number).ParseString nodes =
        (following strings numbers root string number).ParseString
          nodes :=
    Parse_of_short strings root string short
  have one : (split "server_port").length ≤ 2 := by
    decide +kernel
  have port :
      (loaded strings numbers root string number).ParseUInt16
          "server_port" =
        (following strings numbers root string number).ParseUInt16
          "server_port" :=
    Parse_of_short numbers root number one
  unfold Context.InitByFile Context.readFile Context.readIsServer
    Context.readIpv6 Context.readMtu Context.readLocalTunIp
    Context.readRemoteTunIp Context.readConnKey Context.readConnProtocol
    Context.readServerIp Context.readServerPort Context.readTunIfName
  rw [port,
    followed "is_server" (by decide +kernel),
    followed "ipv6" (by decide +kernel),
    followed "tun.mtu" (by decide +kernel),
    followed "tun.local_tun_ip" (by decide +kernel),
    followed "tun.remote_tun_ip" (by decide +kernel),
    followed "conn_key" (by decide +kernel),
    followed "conn_protocol" (by decide +kernel),
    followed "server_ip_or_name" (by decide +kernel),
    followed "tun.if_name" (by decide +kernel)]

end YamlHelper

end

end Dsvpn
