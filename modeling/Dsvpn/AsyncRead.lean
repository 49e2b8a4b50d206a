import Dsvpn.ByteBuffer

namespace Dsvpn

/-!
# Composed read operations

A composed read fills `want` bytes of a buffer from `offset` on.  The bytes
may reach the buffer in any number of pieces while the operation is in
progress.  Its completion, with or without an error, is queued first and
handed to the waiting coroutine later; an operation whose completion is
queued is not touched by a later cancellation.
-/

/-- The error codes the program distinguishes from success. -/
inductive ErrorCode where
  | operation_aborted
  | eof
  | connection_reset
  | bad_descriptor
  deriving Repr, DecidableEq

/--
A composed read.  `outcome` is `none` while the operation is in progress, and
then the error code of its queued completion.
-/
structure ReadOp where
  offset : Nat
  want : Nat
  got : Nat
  outcome : Option (Option ErrorCode)
  deriving Repr, DecidableEq

namespace ReadOp

def start (offset want : Nat) : ReadOp where
  offset := offset
  want := want
  got := 0
  outcome := none

/-- A piece can arrive: the operation is in progress and has room for it. -/
def Accepts
    (op : ReadOp)
    (piece : List UInt8) : Prop :=
  op.outcome = none ∧
    piece ≠ [] ∧
    op.got + piece.length ≤ op.want

instance (op : ReadOp) (piece : List UInt8) :
    Decidable (op.Accepts piece) :=
  inferInstanceAs (Decidable (_ ∧ _ ∧ _))

/-- The operation after a piece; the last piece completes it. -/
def receive
    (op : ReadOp)
    (piece : List UInt8) : ReadOp :=
  { op with
    got := op.got + piece.length
    outcome :=
      if op.got + piece.length = op.want then some none else none }

/-- Complete an operation in progress with an error. -/
def fail
    (op : ReadOp)
    (error : ErrorCode) : ReadOp :=
  match op.outcome with
  | none => { op with outcome := some (some error) }
  | some _ => op

/--
The read has put the next bytes of `stream` into the buffer, each at the same
offset in the buffer as in the stream, and is complete as soon as it has all
it wants.
-/
structure Filling
    (op : ReadOp)
    (buffer : Buffer capacity)
    (stream : List UInt8) : Prop where
  inside : op.got ≤ op.want
  outcome :
    op.outcome = if op.got = op.want then some none else none
  available : op.offset + op.got ≤ stream.length
  held :
    buffer.slice op.offset op.got =
      (stream.drop op.offset).take op.got

namespace Filling

/-- A read that starts has nothing yet. -/
theorem start
    {offset want : Nat}
    (buffer : Buffer capacity)
    {stream : List UInt8}
    (positive : 0 < want)
    (available : offset ≤ stream.length) :
    (ReadOp.start offset want).Filling buffer stream where
  inside := Nat.zero_le want
  outcome := by
    rw [if_neg (by simp [ReadOp.start]; omega)]
    rfl
  available := available
  held := by simp [ReadOp.start]

/-- The next bytes of the stream can be received, and the read fills on. -/
theorem receive
    {op : ReadOp}
    {buffer : Buffer capacity}
    {stream piece : List UInt8}
    (filling : op.Filling buffer stream)
    (accepts : op.Accepts piece)
    (isNext : piece <+: stream.drop (op.offset + op.got))
    (fits : op.offset + op.want ≤ capacity) :
    buffer.store? (op.offset + op.got) piece =
        some (buffer.overwrite (op.offset + op.got) piece) ∧
      (op.receive piece).Filling
        (buffer.overwrite (op.offset + op.got) piece) stream := by
  obtain ⟨_, _, room⟩ := accepts
  have inside : op.offset + op.got + piece.length ≤ capacity := by
    omega
  refine ⟨Buffer.store?_eq_some buffer inside, ?_⟩
  have length := isNext.length_le
  rw [List.length_drop] at length
  have available := filling.available
  exact
    { inside := room
      outcome := rfl
      available := by
        simp only [ReadOp.receive]
        omega
      held := by
        simp only [ReadOp.receive]
        rw [Buffer.slice_overwrite_extend buffer inside, filling.held,
          List.take_add, List.drop_drop]
        rw [← List.prefix_iff_eq_take.mp isNext] }

/-- A read that is not complete is still in progress. -/
theorem outcome_eq_some
    {op : ReadOp}
    {buffer : Buffer capacity}
    {stream : List UInt8}
    (filling : op.Filling buffer stream)
    {error : Option ErrorCode}
    (completed : op.outcome = some error) :
    op.got = op.want ∧ error = none := by
  rw [filling.outcome] at completed
  split at completed
  · rename_i full
    exact ⟨full, (Option.some.inj completed).symm⟩
  · cases completed

/-- A read that is not complete has room for one more byte. -/
theorem accepts_one
    {op : ReadOp}
    {buffer : Buffer capacity}
    {stream : List UInt8}
    (filling : op.Filling buffer stream)
    (waiting : op.outcome = none)
    (byte : UInt8) :
    op.Accepts [byte] := by
  have unfinished : op.got ≠ op.want := by
    intro full
    have outcome := filling.outcome
    rw [if_pos full, waiting] at outcome
    cases outcome
  have inside := filling.inside
  refine ⟨waiting, by simp, ?_⟩
  simp only [List.length_singleton]
  omega

end Filling

end ReadOp

end Dsvpn
