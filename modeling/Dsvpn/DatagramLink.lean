import Mathlib.Data.List.Induction
import Mathlib.Data.List.Perm.Subperm
import Mathlib.Data.List.Sort
import Dsvpn.StepSystem

namespace Dsvpn.DatagramLink

/-!
# A link that promises nothing but the packets

A datagram network loses packets, delivers them late, more than once and in
any order, but does not make them up.  One filter decides what is put on the
link, another what is taken from it.  Which packets come out, and in which
order, is then a function of what was put in and of the network's schedule.
-/

open StepSystem

variable {Packet : Type}

structure Link (Packet : Type) where
  sent : List Packet
  received : List Packet
  deriving Repr, DecidableEq

/-- `deliver` names a packet by its position among the sent ones. -/
inductive LinkEvent (Packet : Type) where
  | send (packet : Packet)
  | deliver (index : Nat)
  deriving Repr, DecidableEq

namespace LinkEvent

end LinkEvent

/-- Nothing has been sent. -/
def idle : Link Packet where
  sent := []
  received := []

def step
    (admits passes : Packet → Bool)
    (self : Link Packet) :
    LinkEvent Packet → Option (Link Packet)
  | .send packet =>
      some { self with sent := self.sent ++ [packet].filter admits }
  | .deliver index =>
      (self.sent[index]?).map fun packet =>
        { self with
          received := self.received ++ [packet].filter passes }

section

variable
    {admits passes : Packet → Bool}
    {link final : Link Packet}
    {events : List (LinkEvent Packet)}

end

section

variable
    {admits passes : Packet → Bool}
    {events : List (LinkEvent Packet)}
    {final : Link Packet}
    (reached : run (step admits passes) idle events = some final)

include reached

end

end Dsvpn.DatagramLink
