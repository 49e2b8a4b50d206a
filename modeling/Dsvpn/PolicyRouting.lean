import Mathlib.Data.List.MinMax
import Mathlib.Data.List.Infix
import Mathlib.Logic.Function.Basic

namespace Dsvpn.PolicyRouting

/-!
# Routing tables and rules

An address is the list of its bits, and a route is for the addresses that
begin with its destination.  Of a table the most specific route counts, and of
the rules the first one whose table has a route.
-/

structure Route (Hop : Type) where
  destination : List Bool
  hop : Hop
  deriving Repr, DecidableEq

/-- With `suppress_prefixlength` only longer destinations of the table count. -/
structure Rule (Selector Table : Type) where
  selector : Selector
  table : Table
  suppress_prefixlength : Option Nat
  deriving Repr, DecidableEq

structure Routing (Hop Selector Table : Type) where
  table : Table → List (Route Hop)
  rules : List (Rule Selector Table)

inductive Change (Hop Selector Table : Type) where
  | addRoute (table : Table) (route : Route Hop)
  | deleteRoute (table : Table) (destination : List Bool)
  | addRule (rule : Rule Selector Table)
  | deleteRule (table : Table) (suppress_prefixlength : Option Nat)
  deriving Repr, DecidableEq

variable {Hop Selector Table Packet : Type}

def Route.Covers (route : Route Hop) (address : List Bool) : Prop :=
  route.destination <+: address

instance (route : Route Hop) (address : List Bool) :
    Decidable (route.Covers address) :=
  inferInstanceAs (Decidable (_ <+: _))

/-- The first of the routes with the longest destination. -/
def best
    (routes : List (Route Hop))
    (address : List Bool) : Option (Route Hop) :=
  (routes.filter fun route => decide (route.Covers address)).argmax
    fun route => route.destination.length

/-- Without the routes that are no longer than `bound`. -/
def bestAbove
    (bound : Option Nat)
    (routes : List (Route Hop))
    (address : List Bool) : Option (Route Hop) :=
  (best routes address).filter fun route =>
    match bound with
    | none => true
    | some bound => decide (bound < route.destination.length)

/-- `selects` says what a selector makes of a packet. -/
def lookup
    (selects : Selector → Packet → Bool)
    (routing : Routing Hop Selector Table)
    (packet : Packet)
    (address : List Bool) : Option Hop :=
  routing.rules.findSome? fun rule =>
    if selects rule.selector packet then
      (bestAbove rule.suppress_prefixlength (routing.table rule.table)
        address).map Route.hop
    else
      none

/-- The words of a deletion; what they do not name may be anything. -/
def Rule.Fits
    (table : Table)
    (suppress_prefixlength : Option Nat)
    (rule : Rule Selector Table) : Prop :=
  rule.table = table ∧
    (suppress_prefixlength.isSome →
      rule.suppress_prefixlength = suppress_prefixlength)

instance
    [DecidableEq Table]
    (table : Table)
    (suppress_prefixlength : Option Nat)
    (rule : Rule Selector Table) :
    Decidable (rule.Fits table suppress_prefixlength) :=
  inferInstanceAs (Decidable (_ ∧ (_ → _)))

section

variable [DecidableEq Table]

/--
A route is not added beside one with the same destination.  A rule is added in
front of the others, also when there is the same rule already.  The first route
with the destination is deleted, and the first rule that the words fit.
-/
def Routing.apply
    (routing : Routing Hop Selector Table) :
    Change Hop Selector Table → Routing Hop Selector Table
  | .addRoute table route =>
      if
          (routing.table table).any fun other =>
            other.destination = route.destination then
        routing
      else
        { routing with
          table :=
            Function.update routing.table table
              (routing.table table ++ [route]) }
  | .deleteRoute table destination =>
      { routing with
        table :=
          Function.update routing.table table
            ((routing.table table).eraseP fun route =>
              route.destination = destination) }
  | .addRule rule =>
      { routing with rules := rule :: routing.rules }
  | .deleteRule table suppress_prefixlength =>
      { routing with
        rules :=
          routing.rules.eraseP fun rule =>
            rule.Fits table suppress_prefixlength }

/--
A command changes the routing of one family, or none.  `read` says what it
changes.
-/
def run
    {Command Family : Type}
    [DecidableEq Family]
    (read : Command → Option (Family × Change Hop Selector Table))
    (routings : Family → Routing Hop Selector Table)
    (command : Command) : Family → Routing Hop Selector Table :=
  match read command with
  | none => routings
  | some (family, change) =>
      Function.update routings family ((routings family).apply change)

/-- The changes to the routing of one family. -/
theorem foldl_run
    {Command Family : Type}
    [DecidableEq Family]
    (read : Command → Option (Family × Change Hop Selector Table))
    (commands : List Command)
    (routings : Family → Routing Hop Selector Table)
    (family : Family) :
    commands.foldl (run read) routings family =
      (((commands.filterMap read).filter
          fun change => change.1 = family).map Prod.snd).foldl
        Routing.apply (routings family) := by
  induction commands generalizing routings with
  | nil => rfl
  | cons command commands inductionHypothesis =>
      rw [List.foldl_cons, inductionHypothesis, run]
      cases found : read command with
      | none => rw [List.filterMap_cons_none found]
      | some entry =>
          obtain ⟨other, change⟩ := entry
          rw [List.filterMap_cons_some found]
          by_cases same : other = family
          · rw [List.filter_cons_of_pos (by simpa using same), ← same]
            simp only [Function.update_self, List.map_cons,
              List.foldl_cons]
          · rw [List.filter_cons_of_neg (by simpa using same)]
            simp only []
            rw [Function.update_of_ne (Ne.symm same)]

end

/-- The first of two, unless the second is longer. -/
def moreSpecific :
    Option (Route Hop) → Option (Route Hop) → Option (Route Hop)
  | none, second => second
  | some first, none => some first
  | some first, some second =>
      if first.destination.length < second.destination.length then
        some second
      else
        some first

theorem moreSpecific_assoc (first second third : Option (Route Hop)) :
    moreSpecific (moreSpecific first second) third =
      moreSpecific first (moreSpecific second third) := by
  cases first with
  | none => rfl
  | some first =>
      cases second with
      | none => rfl
      | some second =>
          by_cases shorter :
              first.destination.length < second.destination.length
          · cases third with
            | none => simp [moreSpecific, shorter]
            | some third =>
                by_cases longest :
                    second.destination.length < third.destination.length
                · have transitive := shorter.trans longest
                  simp [moreSpecific, shorter, longest, transitive]
                · simp [moreSpecific, shorter, longest]
          · cases third with
            | none => simp [moreSpecific, shorter]
            | some third =>
                by_cases longest :
                    second.destination.length < third.destination.length
                · simp [moreSpecific, shorter, longest]
                · have transitive :
                      ¬ first.destination.length <
                        third.destination.length :=
                    fun less => longest
                      ((Nat.le_of_not_lt shorter).trans_lt less)
                  simp [moreSpecific, shorter, longest, transitive]

section

variable
    {routes : List (Route Hop)}
    {route : Route Hop}
    {address : List Bool}

theorem best_cons (route : Route Hop) (routes : List (Route Hop)) :
    best (route :: routes) address =
      moreSpecific (if route.Covers address then some route else none)
        (best routes address) := by
  unfold best
  rw [List.filter_cons]
  by_cases covers : route.Covers address
  · rw [if_pos (decide_eq_true covers), List.argmax_cons, if_pos covers]
    cases (routes.filter fun route =>
      decide (route.Covers address)).argmax fun route =>
        route.destination.length with
    | none => rfl
    | some other => rfl
  · rw [if_neg (by simpa using covers), if_neg covers]
    rfl

theorem best_append (first second : List (Route Hop)) :
    best (first ++ second) address =
      moreSpecific (best first address) (best second address) := by
  induction first with
  | nil => rfl
  | cons route first inductionHypothesis =>
      rw [List.cons_append, best_cons, best_cons, inductionHypothesis,
        moreSpecific_assoc]

theorem best_singleton (route : Route Hop) :
    best [route] address =
      if route.Covers address then some route else none := by
  rw [best_cons]
  split <;> rfl

theorem mem_of_best
    (found : best routes address = some route) :
    route ∈ routes ∧ route.Covers address := by
  have member := List.argmax_mem (Option.mem_def.mpr found)
  rw [List.mem_filter, decide_eq_true_eq] at member
  exact member

/-- Two destinations of an address that are as long are the same. -/
theorem Route.Covers.same_destination
    {other : Route Hop}
    (covers : route.Covers address)
    (alsoCovers : other.Covers address)
    (sameLength :
      route.destination.length = other.destination.length) :
    route.destination = other.destination :=
  (List.prefix_of_prefix_length_le covers alsoCovers
    (Nat.le_of_eq sameLength)).eq_of_length sameLength

/-- Only the address itself is sent to where a route for all its bits leads. -/
theorem best_append_host
    {host : Route Hop}
    (absent : ∀ other ∈ routes, other.destination ≠ host.destination)
    (sameLength : address.length = host.destination.length) :
    best (routes ++ [host]) address =
      if address = host.destination then
        some host
      else
        best routes address := by
  rw [best_append, best_singleton]
  by_cases isHost : address = host.destination
  · have covers : host.Covers address := isHost ▸ List.prefix_refl _
    rw [if_pos covers, if_pos isHost]
    cases found : best routes address with
    | none => rfl
    | some other =>
        obtain ⟨member, alsoCovers⟩ := mem_of_best found
        have different :
            other.destination.length ≠ host.destination.length :=
          fun same => absent other member
            (alsoCovers.same_destination covers same)
        have atMost : other.destination.length ≤ address.length :=
          alsoCovers.length_le
        rw [sameLength] at atMost
        simp only [moreSpecific,
          if_pos (Nat.lt_of_le_of_ne atMost different)]
  · have apart : ¬ host.Covers address :=
      fun covers =>
        isHost (List.IsPrefix.eq_of_length covers sameLength.symm).symm
    rw [if_neg apart, if_neg isHost]
    cases best routes address with
    | none => rfl
    | some other => rfl

/-- Where the address is sent by a route for some of its bits. -/
def specific
    (routes : List (Route Hop))
    (address : List Bool) : Option Hop :=
  (bestAbove (some 0) routes address).map Route.hop

theorem specific_append_host
    {host : Route Hop}
    (absent : ∀ other ∈ routes, other.destination ≠ host.destination)
    (sameLength : address.length = host.destination.length)
    (nonempty : host.destination ≠ []) :
    specific (routes ++ [host]) address =
      if address = host.destination then
        some host.hop
      else
        specific routes address := by
  have positive : 0 < host.destination.length :=
    List.length_pos_iff.mpr nonempty
  unfold specific bestAbove
  rw [best_append_host absent sameLength]
  by_cases isHost : address = host.destination
  · rw [if_pos isHost, if_pos isHost]
    simp [Option.filter, positive]
  · rw [if_neg isHost, if_neg isHost]

/--
The peer, if there is one, is reached by its own route, and what has a route
for some of its bits by that; all else is reached through the tunnel.
-/
def throughTunnel
    (routes : List (Route Hop))
    (peer : Option (Route Hop))
    (tunnel : Hop)
    (address : List Bool) : Hop :=
  match peer with
  | some peer =>
      if address = peer.destination then
        peer.hop
      else
        (specific routes address).getD tunnel
  | none =>
      (specific routes address).getD tunnel

theorem specific_getD
    {peer : Option (Route Hop)}
    (absent :
      ∀ host ∈ peer, ∀ other ∈ routes,
        other.destination ≠ host.destination)
    (sameLength :
      ∀ host ∈ peer, address.length = host.destination.length)
    (nonempty : address ≠ [])
    (tunnel : Hop) :
    (specific (routes ++ peer.toList) address).getD tunnel =
      throughTunnel routes peer tunnel address := by
  cases peer with
  | none => rw [Option.toList_none, List.append_nil, throughTunnel]
  | some host =>
      have sameLength := sameLength host rfl
      have positive : host.destination ≠ [] := by
        rw [← List.length_pos_iff] at nonempty ⊢
        rwa [← sameLength]
      rw [Option.toList_some,
        specific_append_host (absent host rfl) sameLength positive,
        throughTunnel]
      split <;> rfl

/-- The default route of another table, behind a rule for specific routes. -/
theorem lookup_two_rules
    {selects : Selector → Packet → Bool}
    {routing : Routing Hop Selector Table}
    {packet : Packet}
    {everything unmarked : Selector}
    {main other : Table}
    {rest : List (Rule Selector Table)}
    {tunnel : Hop}
    (rules :
      routing.rules =
        ⟨everything, main, some 0⟩ :: ⟨unmarked, other, none⟩ :: rest)
    (selectsAll : selects everything packet = true)
    (selectsThis : selects unmarked packet = true)
    (default : routing.table other = [⟨[], tunnel⟩])
    (address : List Bool) :
    lookup selects routing packet address =
      some ((specific (routing.table main) address).getD tunnel) := by
  have fallback :
      bestAbove none [(⟨[], tunnel⟩ : Route Hop)] address =
        some ⟨[], tunnel⟩ := by
    have covers : (⟨[], tunnel⟩ : Route Hop).Covers address :=
      List.nil_prefix
    rw [bestAbove, best_singleton, if_pos covers]
    rfl
  unfold lookup
  rw [rules, List.findSome?_cons, List.findSome?_cons, if_pos selectsAll,
    if_pos selectsThis, default, fallback]
  change
    (match specific (routing.table main) address with
      | some hop => some hop
      | none => some tunnel) = _
  cases specific (routing.table main) address with
  | none => rfl
  | some hop => rfl

/-- A route for each half of the addresses hides the default routes. -/
theorem best_append_halves
    {tunnel : Hop}
    (absent : ∀ other ∈ routes, other.destination.length ≠ 1)
    (nonempty : address ≠ []) :
    (best (routes ++ [⟨[false], tunnel⟩, ⟨[true], tunnel⟩]) address).map
        Route.hop =
      some ((specific routes address).getD tunnel) := by
  obtain ⟨bit, rest, rfl⟩ := List.exists_cons_of_ne_nil nonempty
  have halves :
      best [(⟨[false], tunnel⟩ : Route Hop), ⟨[true], tunnel⟩]
          (bit :: rest) =
        some ⟨[bit], tunnel⟩ := by
    rw [best_cons, best_singleton]
    cases bit with
    | false => simp [Route.Covers, moreSpecific]
    | true => simp [Route.Covers, moreSpecific]
  rw [best_append, halves]
  unfold specific bestAbove
  cases found : best routes (bit :: rest) with
  | none => rfl
  | some other =>
      have notOne := absent other (mem_of_best found).1
      by_cases isDefault : other.destination.length = 0
      · simp [moreSpecific, isDefault, Option.filter]
      · have longer : ¬ other.destination.length < 1 := by omega
        have positive : 0 < other.destination.length := by omega
        simp [moreSpecific, longer, positive, Option.filter]

end

section

variable
    [DecidableEq Table]
    {routing : Routing Hop Selector Table}
    {table : Table}
    {routes : List (Route Hop)}
    {route : Route Hop}
    {rule : Rule Selector Table}

theorem apply_addRoute
    (absent :
      ∀ other ∈ routing.table table,
        other.destination ≠ route.destination) :
    routing.apply (.addRoute table route) =
      { routing with
        table :=
          Function.update routing.table table
            (routing.table table ++ [route]) } := by
  refine if_neg ?_
  simpa using absent

theorem apply_addRoute_again
    (member : route ∈ routing.table table) :
    routing.apply (.addRoute table route) = routing := by
  refine if_pos ?_
  rw [List.any_eq_true]
  exact ⟨route, member, decide_eq_true rfl⟩

theorem apply_deleteRoute
    {destination : List Bool}
    {before rest : List (Route Hop)}
    (others : ∀ other ∈ before, other.destination ≠ destination)
    (absent : ∀ other ∈ rest, other.destination ≠ destination)
    (added :
      routing.table table = before ++ route :: rest ∧
          route.destination = destination ∨
        routing.table table = before ++ rest) :
    routing.apply (.deleteRoute table destination) =
      { routing with
        table := Function.update routing.table table (before ++ rest) } := by
  have deletes :
      routing.apply (.deleteRoute table destination) =
        { routing with
          table :=
            Function.update routing.table table
              ((routing.table table).eraseP fun route =>
                route.destination = destination) } :=
    rfl
  have none
      {routes : List (Route Hop)}
      (others : ∀ other ∈ routes, other.destination ≠ destination) :
      ∀ other ∈ routes,
        ¬ decide (other.destination = destination) = true := by
    simpa using others
  rw [deletes]
  rcases added with ⟨added, same⟩ | same
  · have first :
        (route :: rest).eraseP
            (fun other => decide (other.destination = destination)) =
          rest :=
      List.eraseP_cons_of_pos (decide_eq_true same)
    rw [added, List.eraseP_append_right _ (none others), first]
  · rw [same, List.eraseP_append_right _ (none others),
      List.eraseP_of_forall_not (none absent)]

/-- The routing with more routes behind those of the table. -/
def Routing.extend
    (routing : Routing Hop Selector Table)
    (table : Table)
    (routes : List (Route Hop)) : Routing Hop Selector Table :=
  { routing with
    table :=
      Function.update routing.table table
        (routing.table table ++ routes) }

theorem extend_nil : routing.extend table [] = routing := by
  rw [Routing.extend, List.append_nil, Function.update_eq_self]

theorem extend_extend (first second : List (Route Hop)) :
    (routing.extend table first).extend table second =
      routing.extend table (first ++ second) := by
  simp [Routing.extend, List.append_assoc]

theorem extend_table :
    (routing.extend table routes).table table =
      routing.table table ++ routes :=
  Function.update_self ..

/-- New routes for different destinations. -/
theorem foldl_addRoute
    (distinct : (routes.map Route.destination).Nodup)
    (absent :
      ∀ route ∈ routes, ∀ other ∈ routing.table table,
        other.destination ≠ route.destination) :
    (routes.map (Change.addRoute table)).foldl Routing.apply routing =
      routing.extend table routes := by
  induction routes generalizing routing with
  | nil => exact extend_nil.symm
  | cons route routes inductionHypothesis =>
      obtain ⟨here, later⟩ := List.forall_mem_cons.mp absent
      obtain ⟨apart, distinct⟩ := List.nodup_cons.mp distinct
      have added :
          routing.apply (.addRoute table route) =
            routing.extend table [route] :=
        apply_addRoute here
      rw [List.map_cons, List.foldl_cons, added,
        inductionHypothesis distinct, extend_extend]
      · rfl
      · intro next member other isOther
        rw [extend_table, List.mem_append, List.mem_singleton] at isOther
        rcases isOther with isOther | rfl
        · exact later next member other isOther
        · exact fun same =>
            apart (same ▸ List.mem_map_of_mem member)

/-- The added routes are deleted, whether they are there or not. -/
theorem foldl_deleteRoute
    {added : List (Route Hop)}
    (distinct : (routes.map Route.destination).Nodup)
    (absent :
      ∀ route ∈ routes, ∀ other ∈ routing.table table,
        other.destination ≠ route.destination)
    (known : added = routes ∨ added = []) :
    (routes.map fun route =>
        Change.deleteRoute table route.destination).foldl
          Routing.apply (routing.extend table added) =
      routing := by
  induction routes generalizing added with
  | nil =>
      obtain rfl : added = [] := by simpa using known
      exact extend_nil
  | cons route routes inductionHypothesis =>
      obtain ⟨here, later⟩ := List.forall_mem_cons.mp absent
      obtain ⟨apart, distinct⟩ := List.nodup_cons.mp distinct
      have others :
          ∀ other ∈ added.tail, other.destination ≠ route.destination := by
        rcases known with rfl | rfl
        · exact fun other member same =>
            apart (same ▸ List.mem_map_of_mem member)
        · exact fun other member => absurd member List.not_mem_nil
      have placed :
          (routing.extend table added).table table =
                routing.table table ++ route :: added.tail ∧
              route.destination = route.destination ∨
            (routing.extend table added).table table =
              routing.table table ++ added.tail := by
        rw [extend_table]
        rcases known with rfl | rfl
        · exact .inl ⟨rfl, rfl⟩
        · exact .inr rfl
      have deleted :
          (routing.extend table added).apply
              (.deleteRoute table route.destination) =
            routing.extend table added.tail := by
        rw [apply_deleteRoute here others placed]
        simp [Routing.extend]
      rw [List.map_cons, List.foldl_cons, deleted]
      refine inductionHypothesis distinct later ?_
      rcases known with rfl | rfl
      · exact .inl rfl
      · exact .inr rfl

theorem apply_deleteRule
    {suppress_prefixlength : Option Nat}
    {before rest : List (Rule Selector Table)}
    (others : ∀ other ∈ before, ¬ other.Fits table suppress_prefixlength)
    (absent : ∀ other ∈ rest, ¬ other.Fits table suppress_prefixlength)
    (added :
      routing.rules = before ++ rule :: rest ∧
          rule.Fits table suppress_prefixlength ∨
        routing.rules = before ++ rest) :
    routing.apply (.deleteRule table suppress_prefixlength) =
      { routing with rules := before ++ rest } := by
  have deletes :
      routing.apply (.deleteRule table suppress_prefixlength) =
        { routing with
          rules :=
            routing.rules.eraseP fun rule =>
              rule.Fits table suppress_prefixlength } :=
    rfl
  have none
      {rules : List (Rule Selector Table)}
      (unfit : ∀ other ∈ rules, ¬ other.Fits table suppress_prefixlength) :
      ∀ other ∈ rules,
        ¬ decide (other.Fits table suppress_prefixlength) = true := by
    simpa using unfit
  rw [deletes]
  rcases added with ⟨added, fits⟩ | same
  · have first :
        (rule :: rest).eraseP
            (fun rule =>
              decide (rule.Fits table suppress_prefixlength)) =
          rest :=
      List.eraseP_cons_of_pos (decide_eq_true fits)
    rw [added, List.eraseP_append_right _ (none others), first]
  · rw [same, List.eraseP_append_right _ (none others),
      List.eraseP_of_forall_not (none absent)]

omit [DecidableEq Table] in
/-- Tables that no rule names do not matter. -/
theorem lookup_congr
    {selects : Selector → Packet → Bool}
    {other : Routing Hop Selector Table}
    (sameRules : other.rules = routing.rules)
    (sameTables :
      ∀ rule ∈ routing.rules,
        other.table rule.table = routing.table rule.table)
    (packet : Packet)
    (address : List Bool) :
    lookup selects other packet address =
      lookup selects routing packet address := by
  unfold lookup
  rw [sameRules]
  generalize routing.rules = rules at sameTables
  induction rules with
  | nil => rfl
  | cons rule rules inductionHypothesis =>
      obtain ⟨here, later⟩ := List.forall_mem_cons.mp sameTables
      rw [List.findSome?_cons, List.findSome?_cons, here,
        inductionHypothesis later]

end

end Dsvpn.PolicyRouting
