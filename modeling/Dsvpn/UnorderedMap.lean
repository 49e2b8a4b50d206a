import Mathlib.Tactic.Common

namespace Dsvpn

/-!
# Maps and secondary indexes

A map as `std::unordered_map` has it: `insert` leaves an entry alone that is
already there.  A second map is an index of the first one by a key of the
values when both have the same values, each at its place.
-/

variable {Key Value : Type}

/-- What `find` returns for each key. -/
abbrev UnorderedMap (Key Value : Type) := Key → Option Value

namespace UnorderedMap

def empty : UnorderedMap Key Value :=
  fun _ => none

variable [DecidableEq Key]

def insert
    (self : UnorderedMap Key Value)
    (key : Key)
    (value : Value) : UnorderedMap Key Value :=
  fun other =>
    if other = key then
      match self key with
      | none => some value
      | some old => some old
    else
      self other

def erase
    (self : UnorderedMap Key Value)
    (key : Key) : UnorderedMap Key Value :=
  fun other => if other = key then none else self other

variable
    {self : UnorderedMap Key Value}
    {key other : Key}
    {value : Value}

/-- An entry that is there stays. -/
theorem insert_kept
    {old : Value}
    (present : self other = some old) :
    self.insert key value other = some old := by
  unfold insert
  split
  · rename_i same
    rw [← same, present]
  · exact present

/-- A free key gets the new value. -/
theorem insert_free
    (free : self key = none) :
    self.insert key value key = some value := by
  simp only [insert, if_true, free]

/-- What is found was there, or is the new entry. -/
theorem insert_eq_some
    {found : Value}
    (present : self.insert key value other = some found) :
    self other = some found ∨
      (other = key ∧ self key = none ∧ found = value) := by
  unfold insert at present
  split at present
  · rename_i same
    split at present
    · rename_i free
      exact Or.inr ⟨same, free, (Option.some.inj present).symm⟩
    · rename_i old kept
      rw [same, kept]
      exact Or.inl present
  · exact Or.inl present

end UnorderedMap

/--
`secondary` has the values of `primary` and no others, each at the value that
`key` has for it, and at one place in `primary`.
-/
structure IndexedBy
    {Primary Secondary : Type}
    (primary : UnorderedMap Primary Value)
    (secondary : UnorderedMap Secondary Value)
    (key : Value → Secondary) : Prop where
  found :
    ∀ {place value},
      primary place = some value → secondary (key value) = some value
  registered :
    ∀ {index value},
      secondary index = some value →
      key value = index ∧ ∃ place, primary place = some value
  single :
    ∀ {place other value second},
      primary place = some value →
      primary other = some second →
      key value = key second →
      place = other

namespace IndexedBy

variable
    {Primary Secondary : Type}
    {primary : UnorderedMap Primary Value}
    {secondary : UnorderedMap Secondary Value}
    {key other : Value → Secondary}

theorem empty :
    IndexedBy (UnorderedMap.empty : UnorderedMap Primary Value)
      UnorderedMap.empty key where
  found := nofun
  registered := nofun
  single := nofun

/-- Only the keys of the values in the maps matter. -/
theorem congr
    (indexed : IndexedBy primary secondary key)
    (samePrimary :
      ∀ place value, primary place = some value → other value = key value)
    (sameSecondary :
      ∀ index value,
        secondary index = some value → other value = key value) :
    IndexedBy primary secondary other where
  found := by
    intro place value present
    rw [samePrimary place value present]
    exact indexed.found present
  registered := by
    intro index value present
    rw [sameSecondary index value present]
    exact indexed.registered present
  single := by
    intro place place' value second present presentToo same
    rw [samePrimary place value present,
      samePrimary place' second presentToo] at same
    exact indexed.single present presentToo same

variable [DecidableEq Primary] [DecidableEq Secondary]

/-- A value with a free key can be added. -/
theorem insert
    (indexed : IndexedBy primary secondary key)
    {place : Primary}
    {value : Value}
    (free : primary place = none)
    (fresh : secondary (key value) = none) :
    IndexedBy (primary.insert place value)
      (secondary.insert (key value) value) key where
  found := by
    intro at' second present
    rcases UnorderedMap.insert_eq_some present with
      before | ⟨_, _, rfl⟩
    · exact UnorderedMap.insert_kept (indexed.found before)
    · exact UnorderedMap.insert_free fresh
  registered := by
    intro index second present
    rcases UnorderedMap.insert_eq_some present with
      before | ⟨rfl, _, rfl⟩
    · obtain ⟨same, at', there⟩ := indexed.registered before
      exact ⟨same, at', UnorderedMap.insert_kept there⟩
    · exact ⟨rfl, place, UnorderedMap.insert_free free⟩
  single := by
    intro at' other' second third present presentToo same
    rcases UnorderedMap.insert_eq_some present with
      before | ⟨rfl, _, rfl⟩
    · rcases UnorderedMap.insert_eq_some presentToo with
        beforeToo | ⟨rfl, _, rfl⟩
      · exact indexed.single before beforeToo same
      · rw [← same, indexed.found before] at fresh
        cases fresh
    · rcases UnorderedMap.insert_eq_some presentToo with
        beforeToo | ⟨rfl, _, _⟩
      · rw [same, indexed.found beforeToo] at fresh
        cases fresh
      · rfl

/-- If the maps agree after a new value was added, they did before. -/
theorem of_insert
    {place : Primary}
    {value : Value}
    (indexed :
      IndexedBy (primary.insert place value)
        (secondary.insert (key value) value) key)
    (free : primary place = none)
    (newPrimary : ∀ at', primary at' ≠ some value)
    (newSecondary : ∀ index, secondary index ≠ some value) :
    IndexedBy primary secondary key ∧ secondary (key value) = none := by
  have fresh : secondary (key value) = none := by
    have there :
        secondary.insert (key value) value (key value) = some value :=
      indexed.found (UnorderedMap.insert_free free)
    rcases UnorderedMap.insert_eq_some there with before | ⟨_, fresh, _⟩
    · exact (newSecondary _ before).elim
    · exact fresh
  refine ⟨⟨?_, ?_, ?_⟩, fresh⟩
  · intro at' second present
    have kept : primary.insert place value at' = some second :=
      UnorderedMap.insert_kept present
    have there := indexed.found kept
    rcases UnorderedMap.insert_eq_some there with before | ⟨_, _, rfl⟩
    · exact before
    · exact (newPrimary _ present).elim
  · intro index second present
    have kept :
        secondary.insert (key value) value index = some second :=
      UnorderedMap.insert_kept present
    obtain ⟨same, at', there⟩ := indexed.registered kept
    rcases UnorderedMap.insert_eq_some there with before | ⟨_, _, rfl⟩
    · exact ⟨same, at', before⟩
    · exact (newSecondary _ present).elim
  · intro at' other' second third present presentToo same
    exact indexed.single
      (UnorderedMap.insert_kept present)
      (UnorderedMap.insert_kept presentToo) same

end IndexedBy

end Dsvpn
