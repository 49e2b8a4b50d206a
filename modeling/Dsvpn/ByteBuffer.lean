import Mathlib.Algebra.Ring.Nat
import Mathlib.Data.List.GetD
import Mathlib.Tactic.Common

namespace Dsvpn

/-!
# Fixed-size byte buffers

A buffer is an array of bytes whose capacity is part of its type.  `slice` and
`overwrite` are the unchecked accesses; `load?` and `store?` are the accesses a
program performs, and fail when the accessed range leaves the array.

The lemmas say what a slice sees after a write: the written bytes inside the
written range, and the earlier bytes everywhere else.
-/

/-- An array of `capacity` bytes. -/
structure Buffer (capacity : Nat) where
  byte : Fin capacity → UInt8

namespace Buffer

/-- The byte at an index; indices outside the array read as zero. -/
def get
    (buffer : Buffer capacity)
    (index : Nat) : UInt8 :=
  if inside : index < capacity then buffer.byte ⟨index, inside⟩ else 0

/-- The `length` bytes that start at `offset`. -/
def slice
    (buffer : Buffer capacity)
    (offset length : Nat) : List UInt8 :=
  (List.range length).map fun index => buffer.get (offset + index)

/-- Replace the bytes that start at `offset` by `data`. -/
def overwrite
    (buffer : Buffer capacity)
    (offset : Nat)
    (data : List UInt8) : Buffer capacity where
  byte := fun index =>
    if offset ≤ index.val ∧ index.val < offset + data.length then
      data.getD (index.val - offset) 0
    else
      buffer.byte index

/-- A checked read: it fails when the range leaves the array. -/
def load?
    (buffer : Buffer capacity)
    (offset length : Nat) : Option (List UInt8) :=
  if offset + length ≤ capacity then
    some (buffer.slice offset length)
  else
    none

/-- A checked write: it fails when the range leaves the array. -/
def store?
    (buffer : Buffer capacity)
    (offset : Nat)
    (data : List UInt8) : Option (Buffer capacity) :=
  if offset + data.length ≤ capacity then
    some (buffer.overwrite offset data)
  else
    none

@[simp] theorem length_slice
    (buffer : Buffer capacity)
    (offset length : Nat) :
    (buffer.slice offset length).length = length := by
  simp [slice]

@[simp] theorem getElem_slice
    (buffer : Buffer capacity)
    (offset length index : Nat)
    (inside : index < (buffer.slice offset length).length) :
    (buffer.slice offset length)[index] = buffer.get (offset + index) := by
  simp [slice]

@[simp] theorem slice_zero
    (buffer : Buffer capacity)
    (offset : Nat) :
    buffer.slice offset 0 = [] := by
  simp [slice]

/-- An in-bounds checked read is the unchecked one. -/
theorem load?_eq_some
    (buffer : Buffer capacity)
    {offset length : Nat}
    (inside : offset + length ≤ capacity) :
    buffer.load? offset length = some (buffer.slice offset length) := by
  simp [load?, inside]

/-- An in-bounds checked write is the unchecked one. -/
theorem store?_eq_some
    (buffer : Buffer capacity)
    {offset : Nat}
    {data : List UInt8}
    (inside : offset + data.length ≤ capacity) :
    buffer.store? offset data = some (buffer.overwrite offset data) := by
  simp [store?, inside]

theorem store?_eq_none
    (buffer : Buffer capacity)
    {offset : Nat}
    {data : List UInt8}
    (outside : ¬ offset + data.length ≤ capacity) :
    buffer.store? offset data = none :=
  if_neg outside

/-- A checked write that succeeds was inside the array. -/
theorem store?_eq_some_iff
    {buffer result : Buffer capacity}
    {offset : Nat}
    {data : List UInt8} :
    buffer.store? offset data = some result ↔
      offset + data.length ≤ capacity ∧
        buffer.overwrite offset data = result := by
  simp [store?]

/-- Bytes inside the written range are the written bytes. -/
theorem get_overwrite_inside
    (buffer : Buffer capacity)
    {offset index : Nat}
    {data : List UInt8}
    (fits : offset + data.length ≤ capacity)
    (inside : index < data.length) :
    (buffer.overwrite offset data).get (offset + index) = data[index] := by
  have inArray : offset + index < capacity := by omega
  have inRange : offset + index < offset + data.length := by omega
  simp [get, overwrite, inArray, inRange, inside]

/-- Bytes outside the written range are untouched. -/
theorem get_overwrite_outside
    (buffer : Buffer capacity)
    {offset index : Nat}
    {data : List UInt8}
    (outside : index < offset ∨ offset + data.length ≤ index) :
    (buffer.overwrite offset data).get index = buffer.get index := by
  have notInRange :
      ¬ (offset ≤ index ∧ index < offset + data.length) := by
    omega
  simp [get, overwrite, notInRange]

/-- A slice none of whose bytes is written is untouched. -/
theorem slice_overwrite_apart
    (buffer : Buffer capacity)
    {writeOffset offset length : Nat}
    {data : List UInt8}
    (apart :
      ∀ index, offset ≤ index → index < offset + length →
        index < writeOffset ∨ writeOffset + data.length ≤ index) :
    (buffer.overwrite writeOffset data).slice offset length =
      buffer.slice offset length := by
  apply List.ext_getElem
  · simp
  · intro index inside _
    simp only [length_slice] at inside
    simp only [getElem_slice]
    exact get_overwrite_outside buffer
      (apart (offset + index) (by omega) (by omega))

/-- A slice disjoint from a write is untouched. -/
theorem slice_overwrite_disjoint
    (buffer : Buffer capacity)
    {writeOffset offset length : Nat}
    {data : List UInt8}
    (disjoint :
      offset + length ≤ writeOffset ∨
        writeOffset + data.length ≤ offset) :
    (buffer.overwrite writeOffset data).slice offset length =
      buffer.slice offset length :=
  slice_overwrite_apart buffer fun _ _ _ => by omega

/-- A slice inside a written range sees the written bytes. -/
theorem slice_overwrite_inside
    (buffer : Buffer capacity)
    {writeOffset offset length : Nat}
    {data : List UInt8}
    (fits : writeOffset + data.length ≤ capacity)
    (starts : writeOffset ≤ offset)
    (ends : offset + length ≤ writeOffset + data.length) :
    (buffer.overwrite writeOffset data).slice offset length =
      (data.drop (offset - writeOffset)).take length := by
  apply List.ext_getElem
  · simp
    omega
  · intro index inside _
    simp only [length_slice] at inside
    have position :
        offset + index = writeOffset + (offset - writeOffset + index) := by
      omega
    have inData : offset - writeOffset + index < data.length := by
      omega
    simp only [getElem_slice, position, List.getElem_take, List.getElem_drop]
    exact get_overwrite_inside buffer fits inData

/-- Reading back exactly what was written. -/
theorem slice_overwrite_same
    (buffer : Buffer capacity)
    (offset : Nat)
    (data : List UInt8)
    (fits : offset + data.length ≤ capacity) :
    (buffer.overwrite offset data).slice offset data.length = data := by
  rw [slice_overwrite_inside buffer fits (Nat.le_refl offset) (Nat.le_refl _)]
  simp

/-- Adjacent slices concatenate. -/
theorem slice_append
    (buffer : Buffer capacity)
    (offset first second : Nat) :
    buffer.slice offset (first + second) =
      buffer.slice offset first ++ buffer.slice (offset + first) second := by
  apply List.ext_getElem
  · simp
  · intro index inside _
    simp only [length_slice] at inside
    by_cases inFirst : index < first
    · simp [inFirst]
    · have position : offset + first + (index - first) = offset + index := by
        omega
      simp [List.getElem_append, inFirst, position]

/-- A part of a slice is the slice at the shifted offset. -/
theorem take_drop_slice
    (buffer : Buffer capacity)
    (offset : Nat)
    {total skipped length : Nat}
    (inside : skipped + length ≤ total) :
    ((buffer.slice offset total).drop skipped).take length =
      buffer.slice (offset + skipped) length := by
  apply List.ext_getElem
  · simp
    omega
  · intro index _ _
    simp [Nat.add_assoc]

/-- Writing at the end of an already known slice extends it. -/
theorem slice_overwrite_extend
    (buffer : Buffer capacity)
    {offset known : Nat}
    {data : List UInt8}
    (fits : offset + known + data.length ≤ capacity) :
    (buffer.overwrite (offset + known) data).slice
        offset (known + data.length) =
      buffer.slice offset known ++ data := by
  rw [slice_append,
    slice_overwrite_disjoint buffer (Or.inl (Nat.le_refl _)),
    slice_overwrite_same buffer _ _ fits]

/-- A write in front of known bytes. -/
theorem slice_overwrite_before
    (buffer : Buffer capacity)
    {offset : Nat}
    {data : List UInt8}
    (fits : offset + data.length ≤ capacity)
    (known : Nat) :
    (buffer.overwrite offset data).slice offset (data.length + known) =
      data ++ buffer.slice (offset + data.length) known := by
  rw [slice_append, slice_overwrite_same _ _ _ fits,
    slice_overwrite_disjoint _ (Or.inr (Nat.le_refl _))]

/-- A known prefix of the buffer determines every slice inside it. -/
theorem slice_of_prefix
    {buffer : Buffer capacity}
    {known offset length : Nat}
    {data : List UInt8}
    (held : buffer.slice 0 known = data.take known)
    (inside : offset + length ≤ known) :
    buffer.slice offset length = (data.drop offset).take length := by
  have part := take_drop_slice buffer 0 inside
  rw [held, List.drop_take, List.take_take, Nat.min_eq_left (by omega),
    Nat.zero_add] at part
  exact part.symm

/-- Buffers with a common prefix agree on every slice inside it. -/
theorem slice_congr
    {first second : Buffer capacity}
    {known offset length : Nat}
    (same : first.slice 0 known = second.slice 0 known)
    (inside : offset + length ≤ known) :
    first.slice offset length = second.slice offset length := by
  have firstPart := take_drop_slice first 0 inside
  have secondPart := take_drop_slice second 0 inside
  rw [Nat.zero_add] at firstPart secondPart
  rw [← firstPart, ← secondPart, same]

theorem get_overwrite
    (buffer : Buffer capacity)
    (offset : Nat)
    (data : List UInt8)
    (index : Nat) :
    (buffer.overwrite offset data).get index =
      if
          index < capacity ∧ offset ≤ index ∧
            index < offset + data.length then
        data.getD (index - offset) 0
      else
        buffer.get index := by
  by_cases inArray : index < capacity
  · simp [get, overwrite, inArray]
  · simp [get, inArray]

def AgreeOn
    (range : Nat → Prop)
    (first second : Buffer capacity) : Prop :=
  ∀ index, range index → first.get index = second.get index

theorem AgreeOn.slice
    {range : Nat → Prop}
    {first second : Buffer capacity}
    (agree : AgreeOn range first second)
    {offset length : Nat}
    (inRange :
      ∀ index, offset ≤ index → index < offset + length →
        range index) :
    first.slice offset length = second.slice offset length := by
  apply List.ext_getElem
  · simp
  · intro index inside _
    simp only [length_slice] at inside
    simp only [getElem_slice]
    exact agree _ (inRange _ (by omega) (by omega))

theorem AgreeOn.mono
    {range smaller : Nat → Prop}
    {first second : Buffer capacity}
    (agree : AgreeOn range first second)
    (included : ∀ index, smaller index → range index) :
    AgreeOn smaller first second :=
  fun index inside => agree index (included index inside)

/-- The same write makes two buffers agree on what was written. -/
theorem AgreeOn.overwrite
    {range : Nat → Prop}
    {first second : Buffer capacity}
    (agree : AgreeOn range first second)
    (offset : Nat)
    (data : List UInt8) :
    AgreeOn
      (fun index =>
        range index ∨ offset ≤ index ∧ index < offset + data.length)
      (first.overwrite offset data) (second.overwrite offset data) := by
  intro index inside
  rw [get_overwrite, get_overwrite]
  split
  · rfl
  · rename_i outside
    rcases inside with inRange | written
    · exact agree index inRange
    · by_cases inArray : index < capacity
      · exact (outside ⟨inArray, written⟩).elim
      · simp [get, inArray]

/-- A write that changes no byte of the range keeps the agreement. -/
theorem AgreeOn.overwrite_left
    {range : Nat → Prop}
    {first second : Buffer capacity}
    (agree : AgreeOn range first second)
    {offset : Nat}
    {data : List UInt8}
    (spared :
      ∀ index < data.length,
        range (offset + index) →
        data.getD index 0 = first.get (offset + index)) :
    AgreeOn range (first.overwrite offset data) second := by
  intro index inRange
  rw [get_overwrite, ← agree index inRange]
  split
  · rename_i written
    have position : offset + (index - offset) = index := by omega
    have same := spared (index - offset) (by omega)
    rw [position] at same
    exact same inRange
  · rfl

/-- A buffer that holds these bytes from its beginning on. -/
def ofBytes (bytes : List UInt8) : Buffer capacity :=
  (⟨fun _ => 0⟩ : Buffer capacity).overwrite 0 bytes

theorem get_ofBytes
    (bytes : List UInt8)
    {index : Nat}
    (inArray : index < capacity) :
    (ofBytes bytes : Buffer capacity).get index =
      bytes.getD index 0 := by
  rw [ofBytes, get_overwrite]
  split
  · rw [Nat.sub_zero]
  · rename_i outside
    have behind : bytes.length ≤ index := by omega
    rw [List.getD_eq_default _ _ behind]
    simp [get, inArray]

/-- Buffers that agree everywhere are equal. -/
theorem AgreeOn.eq
    {range : Nat → Prop}
    {first second : Buffer capacity}
    (agree : AgreeOn range first second)
    (everywhere : ∀ index, range index) :
    first = second := by
  obtain ⟨firstByte⟩ := first
  obtain ⟨secondByte⟩ := second
  congr
  funext index
  simpa [get] using agree index.val (everywhere index.val)

/-- The bytes of the whole array are the array. -/
theorem ofBytes_slice (buffer : Buffer capacity) :
    ofBytes (buffer.slice 0 capacity) = buffer := by
  refine AgreeOn.eq ?_ fun _ => trivial
  intro index _
  by_cases inArray : index < capacity
  · have inside : index < (buffer.slice 0 capacity).length := by
      rw [length_slice]
      exact inArray
    rw [get_ofBytes _ inArray, List.getD_eq_getElem _ _ inside,
      getElem_slice, Nat.zero_add]
  · simp [get, inArray]

/-- A write of the first bytes again changes nothing. -/
theorem overwrite_ofBytes (bytes others : List UInt8) :
    (ofBytes (bytes ++ others) : Buffer capacity).overwrite 0 bytes =
      ofBytes (bytes ++ others) := by
  refine AgreeOn.eq ?_ fun _ => trivial
  intro index _
  rw [get_overwrite]
  split
  · rename_i written
    rw [get_ofBytes _ written.1, Nat.sub_zero,
      List.getD_append _ _ _ _ (by omega)]
  · rfl

/-- Appending a piece is writing it behind the bytes. -/
theorem ofBytes_append (bytes piece : List UInt8) :
    (ofBytes (bytes ++ piece) : Buffer capacity) =
      (ofBytes bytes).overwrite bytes.length piece := by
  refine AgreeOn.eq ?_ fun _ => trivial
  intro index _
  by_cases inArray : index < capacity
  · rw [get_ofBytes _ inArray, get_overwrite]
    split
    · rename_i written
      exact List.getD_append_right _ _ _ _ written.2.1
    · rename_i outside
      rw [get_ofBytes _ inArray]
      by_cases early : index < bytes.length
      · exact List.getD_append _ _ _ _ early
      · have behind : bytes.length + piece.length ≤ index := by omega
        rw [List.getD_eq_default _ _ (by simpa using behind),
          List.getD_eq_default _ _ (by omega)]
  · simp [get, inArray]

/-- Two writes apart from each other can be made in any order. -/
theorem overwrite_comm
    (buffer : Buffer capacity)
    {first second : Nat}
    {data other : List UInt8}
    (apart : first + data.length ≤ second) :
    (buffer.overwrite first data).overwrite second other =
      (buffer.overwrite second other).overwrite first data := by
  refine AgreeOn.eq ?_ fun _ => trivial
  intro index _
  simp only [get_overwrite]
  grind

end Buffer

/-- The four little-endian bytes of the low 32 bits of a number. -/
def word32 (value : Nat) : List UInt8 :=
  [UInt8.ofNat value,
    UInt8.ofNat (value / 256),
    UInt8.ofNat (value / 65536),
    UInt8.ofNat (value / 16777216)]

/-- Read a little-endian 32-bit word from the first four bytes. -/
def ofWord32 : List UInt8 → Nat
  | first :: second :: third :: fourth :: _ =>
      first.toNat + 256 * second.toNat +
        65536 * third.toNat + 16777216 * fourth.toNat
  | _ => 0

@[simp] theorem length_word32 (value : Nat) :
    (word32 value).length = 4 :=
  rfl

/-- Storing and reading a word keeps its low 32 bits. -/
theorem ofWord32_word32 (value : Nat) :
    ofWord32 (word32 value) = value % 2 ^ 32 := by
  simp only [word32, ofWord32, UInt8.toNat_ofNat']
  omega

/-- Storing a word keeps its low 32 bits only. -/
theorem word32_mod (value : Nat) :
    word32 (value % 2 ^ 32) = word32 value := by
  simp only [word32, List.cons.injEq, and_true, ← UInt8.toNat_inj,
    UInt8.toNat_ofNat']
  omega

end Dsvpn
