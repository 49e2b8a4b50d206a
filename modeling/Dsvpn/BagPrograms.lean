import Dsvpn.StepSystem
import Mathlib.Algebra.BigOperators.Group.Finset.Basic
import Mathlib.Algebra.Order.BigOperators.Group.Finset
import Mathlib.Algebra.Order.Group.Multiset
import Mathlib.Data.Fintype.Basic

namespace Dsvpn

/-!
# Programs that share a bag

Several programs insert elements into one bag and erase them again, in any
interleaving.  A program that only ever erases what it has inserted does not
see the others: the bag is what was in it at first and what each program, run
on its own, would hold.
-/

inductive BagOp (α : Type) where
  | insert (element : α)
  | erase (element : α)

namespace BagOp

variable {α : Type} [DecidableEq α]

/-- Equal elements are counted; of these, `erase` takes one, if there is one. -/
def apply (op : BagOp α) (bag : Multiset α) : Multiset α :=
  match op with
  | .insert element => element ::ₘ bag
  | .erase element => bag.erase element

def applyAll (program : List (BagOp α)) (bag : Multiset α) : Multiset α :=
  program.foldl (fun bag op => op.apply bag) bag

/-- What the operation erases is there. -/
def Covered (op : BagOp α) (bag : Multiset α) : Prop :=
  match op with
  | .insert _ => True
  | .erase element => element ∈ bag

def AllCovered : List (BagOp α) → Multiset α → Prop
  | [], _ => True
  | op :: rest, bag => op.Covered bag ∧ AllCovered rest (op.apply bag)

/-- The program erases what it has inserted, and in the end all of it. -/
structure Balanced (program : List (BagOp α)) : Prop where
  covered : AllCovered program 0
  emptied : applyAll program 0 = 0

/-- A covered operation leaves the others' elements alone. -/
theorem apply_add
    {op : BagOp α}
    {held : Multiset α}
    (covered : op.Covered held)
    (others : Multiset α) :
    op.apply (held + others) = op.apply held + others := by
  cases op with
  | insert element => exact Multiset.cons_add element held others |>.symm
  | erase element => exact Multiset.erase_add_left_pos others covered

theorem covered_of_getElem?
    {program : List (BagOp α)}
    {bag : Multiset α}
    {position : Nat}
    {op : BagOp α}
    (covered : AllCovered program bag)
    (isNext : program[position]? = some op) :
    op.Covered (applyAll (program.take position) bag) := by
  induction program generalizing bag position with
  | nil => cases isNext
  | cons first rest inductionHypothesis =>
      cases position with
      | zero =>
          obtain rfl := Option.some.inj isNext
          exact covered.1
      | succ position => exact inductionHypothesis covered.2 isNext

theorem applyAll_append
    (first second : List (BagOp α))
    (bag : Multiset α) :
    applyAll (first ++ second) bag = applyAll second (applyAll first bag) :=
  List.foldl_append

theorem applyAll_take_succ
    {program : List (BagOp α)}
    {bag : Multiset α}
    {position : Nat}
    {op : BagOp α}
    (isNext : program[position]? = some op) :
    applyAll (program.take (position + 1)) bag =
      op.apply (applyAll (program.take position) bag) := by
  rw [List.take_add_one, isNext, applyAll_append]
  rfl

theorem applyAll_insert
    (elements : List α)
    (bag : Multiset α) :
    applyAll (elements.map .insert) bag = elements + bag := by
  induction elements generalizing bag with
  | nil => exact (Multiset.zero_add bag).symm
  | cons first rest inductionHypothesis =>
      rw [List.map_cons]
      exact (inductionHypothesis (first ::ₘ bag)).trans
        ((Multiset.add_cons first (rest : Multiset α) bag).trans
          (Multiset.cons_add first (rest : Multiset α) bag).symm)

theorem allCovered_insert
    (elements : List α)
    {later : List (BagOp α)}
    {bag : Multiset α}
    (covered : AllCovered later (elements + bag)) :
    AllCovered (elements.map .insert ++ later) bag := by
  induction elements generalizing bag with
  | nil => rwa [Multiset.coe_nil, Multiset.zero_add] at covered
  | cons first rest inductionHypothesis =>
      refine ⟨trivial, inductionHypothesis ?_⟩
      change AllCovered later (rest + first ::ₘ bag)
      rwa [Multiset.add_cons, ← Multiset.cons_add, Multiset.cons_coe]

/-- The elements of the bag can be erased in any order. -/
theorem erase_all (elements : List α) :
    AllCovered (elements.map .erase) (elements : Multiset α) ∧
      applyAll (elements.map .erase) (elements : Multiset α) = 0 := by
  induction elements with
  | nil => exact ⟨trivial, rfl⟩
  | cons first rest inductionHypothesis =>
      have erased :
          (BagOp.erase first).apply (↑(first :: rest)) =
            (rest : Multiset α) := by
        rw [← Multiset.cons_coe]
        exact Multiset.erase_cons_head first rest
      refine ⟨⟨Multiset.mem_coe.mpr List.mem_cons_self, ?_⟩, ?_⟩
      · exact erased ▸ inductionHypothesis.1
      · exact (congrArg (applyAll (rest.map .erase)) erased).trans
          inductionHypothesis.2

def element : BagOp α → α
  | .insert element => element
  | .erase element => element

/-- The elements that were inserted are erased, in any order. -/
theorem balanced_of_perm
    {inserted : List α}
    {erases : List (BagOp α)}
    (perm : erases.Perm (inserted.map .erase)) :
    Balanced (inserted.map .insert ++ erases) := by
  have erased : erases = (erases.map element).map .erase := by
    rw [List.map_map]
    refine (List.map_id' erases).symm.trans (List.map_congr_left ?_)
    intro op member
    obtain ⟨element, _, rfl⟩ :=
      List.mem_map.mp (perm.mem_iff.mp member)
    rfl
  have same : (inserted : Multiset α) + 0 = erases.map element := by
    have elements := perm.map element
    rw [List.map_map] at elements
    rw [Multiset.add_zero, Multiset.coe_eq_coe]
    exact (elements.trans (List.Perm.of_eq (List.map_id' inserted))).symm
  have all := erase_all (erases.map element)
  rw [erased]
  constructor
  · apply allCovered_insert
    rw [same]
    exact all.1
  · rw [applyAll_append, applyAll_insert, same]
    exact all.2

end BagOp

/-- The bag, and how many operations of each program have been performed. -/
structure SharedBag (ι α : Type) where
  bag : Multiset α
  done : ι → Nat

namespace SharedBag

open BagOp

variable {ι α : Type} [DecidableEq α]

def start (bag : Multiset α) : SharedBag ι α where
  bag := bag
  done := fun _ => 0

/-- What the program would hold now on its own. -/
def held
    (programs : ι → List (BagOp α))
    (self : SharedBag ι α)
    (index : ι) : Multiset α :=
  applyAll ((programs index).take (self.done index)) 0

/-- The bag is made up of what was there and what the programs hold. -/
def Accounted
    [Fintype ι]
    (programs : ι → List (BagOp α))
    (initial : Multiset α)
    (self : SharedBag ι α) : Prop :=
  self.bag = initial + ∑ index, self.held programs index

variable
    {programs : ι → List (BagOp α)}
    {self next : SharedBag ι α}
    {initial : Multiset α}
    {index : ι}

section

variable [Fintype ι]

theorem Accounted.start :
    Accounted programs initial (SharedBag.start initial) := by
  have nothing :
      ∑ index, (SharedBag.start initial).held programs index = 0 :=
    Finset.sum_eq_zero fun _ _ => rfl
  rw [Accounted, nothing, Multiset.add_zero]
  rfl

/-- What a program holds is in the bag. -/
theorem Accounted.held_le
    (accounted : Accounted programs initial self)
    (index : ι) :
    self.held programs index ≤ self.bag := by
  rw [accounted]
  exact le_add_left
    (Finset.single_le_sum_of_canonicallyOrdered (Finset.mem_univ index))

/-- Programs that have not begun or have run to their end leave no trace. -/
theorem Accounted.restored
    (emptied : ∀ index, applyAll (programs index) 0 = 0)
    (accounted : Accounted programs initial self)
    (idle :
      ∀ index,
        self.done index = 0 ∨
          self.done index = (programs index).length) :
    self.bag = initial := by
  have nothing : ∑ index, self.held programs index = 0 := by
    refine Finset.sum_eq_zero fun index _ => ?_
    rcases idle index with none | all
    · rw [held, none]
      rfl
    · rw [held, all, List.take_length]
      exact emptied index
  rw [accounted, nothing, Multiset.add_zero]

end

variable [DecidableEq ι]

def advance
    (self : SharedBag ι α)
    (index : ι)
    (op : BagOp α) : SharedBag ι α where
  bag := op.apply self.bag
  done := Function.update self.done index (self.done index + 1)

/-- The next operation of one program. -/
def step
    (programs : ι → List (BagOp α))
    (self : SharedBag ι α)
    (index : ι) : Option (SharedBag ι α) :=
  (programs index)[self.done index]?.map (self.advance index)

theorem held_advance_self
    {op : BagOp α}
    (isNext : (programs index)[self.done index]? = some op) :
    (self.advance index op).held programs index =
      op.apply (self.held programs index) := by
  simp only [held, advance, Function.update_self]
  exact applyAll_take_succ isNext

theorem held_advance_of_ne
    {other : ι}
    (different : other ≠ index)
    (op : BagOp α) :
    (self.advance index op).held programs other =
      self.held programs other := by
  simp only [held, advance, Function.update_of_ne different]

variable [Fintype ι]

theorem Accounted.step
    (covered : ∀ index, AllCovered (programs index) 0)
    (accounted : Accounted programs initial self)
    (performed : self.step programs index = some next) :
    Accounted programs initial next := by
  obtain ⟨op, isNext, rfl⟩ := Option.map_eq_some_iff.mp performed
  have isCovered : op.Covered (self.held programs index) :=
    covered_of_getElem? (covered index) isNext
  have split (state : SharedBag ι α) :
      ∑ index, state.held programs index =
        state.held programs index +
          ∑ other ∈ Finset.univ.erase index,
            state.held programs other :=
    (Finset.add_sum_erase _ _ (Finset.mem_univ index)).symm
  have others :
      ∑ other ∈ Finset.univ.erase index,
          (self.advance index op).held programs other =
        ∑ other ∈ Finset.univ.erase index, self.held programs other :=
    Finset.sum_congr rfl fun other member =>
      held_advance_of_ne (Finset.ne_of_mem_erase member) op
  unfold Accounted at accounted ⊢
  rw [split] at accounted ⊢
  rw [held_advance_self isNext, others, add_left_comm,
    ← apply_add isCovered, ← add_left_comm, ← accounted]
  rfl

theorem accounted_of_run
    {events : List ι}
    {final : SharedBag ι α}
    (covered : ∀ index, AllCovered (programs index) 0)
    (reached :
      StepSystem.run (SharedBag.step programs) (SharedBag.start initial)
          events =
        some final) :
    Accounted programs initial final :=
  StepSystem.run_invariant
    (fun accounted performed => Accounted.step covered accounted performed)
    Accounted.start reached

end SharedBag

end Dsvpn
