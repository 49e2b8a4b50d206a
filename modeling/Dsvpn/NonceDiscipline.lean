import Dsvpn.SendRun

namespace Dsvpn

open ProtocolHeader

/-!
# Nonces over a run of sends

`EncryptPayload` draws the nonce of a frame and `EncryptHeader` encrypts the
lengths under the nonce it finds in the header.  So a nonce is never shared by
two frames, and is always shared by the two encryption calls of one frame.
-/

variable {Endpoint : Type}

/--
No two calls under one key use the same nonce for different plaintexts.
-/
def NoncesSeparatePlaintexts (calls : List Aead.Call) : Prop :=
  ∀ first second,
    first ∈ calls →
    second ∈ calls →
    first.key = second.key →
    first.nonce = second.nonce →
    first.plaintext = second.plaintext

/-- The calls of two sends have no nonce in common. -/
def Sent.NoncesDisjoint (first second : Sent) : Prop :=
  ∀ call other,
    call ∈ first.calls →
    other ∈ second.calls →
    call.nonce ≠ other.nonce

/-- Every call of a sealed frame uses the nonce its send drew. -/
theorem Sent.SealedUnder.nonce_eq
    {aead : Aead 16}
    {key : List UInt8}
    {sent : Sent}
    (sealed : sent.SealedUnder aead key)
    {call : Aead.Call}
    (member : call ∈ sent.calls) :
    call.nonce = sent.request.draw.nonce := by
  rcases sealed with ⟨_, calls⟩ | ⟨_, _, calls⟩
  · simp [calls] at member
  · simp only [calls, frameCalls, List.mem_cons,
      List.not_mem_nil, or_false] at member
    rcases member with rfl | rfl <;> rfl

/--
A dropped packet was not encrypted.  Any other was, and so were the lengths of
its frame: both under the key of the object and the nonce that the send drew.
-/
def Sent.FramedBy
    (aead : Aead 16)
    (key : List UInt8)
    (sent : Sent) : Prop :=
  (sent.frame = none ∧ sent.calls = []) ∨
    (sent.frame =
        some (frameBytes aead key sent.request.packet sent.request.draw) ∧
      sent.calls =
        [⟨key, sent.request.draw.nonce, sent.request.packet⟩,
          ⟨key, sent.request.draw.nonce,
            lengthsOf sent.request.packet sent.request.draw⟩])

/-- The calls of a sealed frame are for its payload and its two lengths. -/
theorem Sent.SealedUnder.framedBy
    {aead : Aead 16}
    {key : List UInt8}
    {sent : Sent}
    (sealed : sent.SealedUnder aead key) :
    sent.FramedBy aead key := by
  rcases sealed with dropped | ⟨_, frame, calls⟩
  · exact Or.inl dropped
  · exact Or.inr ⟨frame, calls⟩

/--
With fresh draws, every nonce belongs to one send.  A send that builds a frame
makes exactly two calls under it and the key of its object, for its payload and
for its two lengths; one that drops the packet makes none.
-/
theorem nonce_perFrame
    (aead : Aead 16)
    (connections : Nat → Connection Endpoint)
    (requests : List SendRequest)
    (fresh :
      (requests.map fun request => request.draw.nonce).Nodup) :
    (sendRun aead connections requests).Pairwise Sent.NoncesDisjoint ∧
      ∀ sent ∈ sendRun aead connections requests,
        sent.FramedBy aead
          (connections sent.request.connection).protocol.key := by
  constructor
  · have drawnOnce :
        ((sendRun aead connections requests).map
          fun sent => sent.request.draw.nonce).Nodup := by
      have performed :=
        (sendRun_requests aead connections requests).map
          fun request => request.draw.nonce
      rw [List.map_map] at performed
      exact performed.nodup fresh
    rw [List.nodup_iff_pairwise_ne, List.pairwise_map] at drawnOnce
    refine drawnOnce.imp_of_mem ?_
    intro first second firstMember secondMember different
      call other callMember otherMember
    rw [(sendRun_sealed firstMember).nonce_eq callMember,
      (sendRun_sealed secondMember).nonce_eq otherMember]
    exact different
  · intro sent member
    exact (sendRun_sealed member).framedBy

/-- Two UDP sends with two draws, over one object. -/
def twoSends : List SendRequest :=
  [⟨0, .send, [69, 1], SendDraw.constant 1⟩,
    ⟨0, .sendTo, [69, 2], SendDraw.constant 2⟩]

theorem nonce_perFrame_twoSends :
    (sendRun Aead.checksumAead
        (fun _ => (.udp (UDPConnection.create [49]) : Connection Nat))
        twoSends).Pairwise Sent.NoncesDisjoint ∧
      ∀ sent ∈ sendRun Aead.checksumAead
          (fun _ => (.udp (UDPConnection.create [49]) : Connection Nat))
          twoSends,
        sent.FramedBy Aead.checksumAead
          (UDPConnection.create [49] : UDPConnection Nat).protocol.key :=
  nonce_perFrame Aead.checksumAead _ twoSends (by decide)

/--
One sent packet already uses one nonce for two plaintexts: the packet and the
length fields of its header.
-/
theorem noncesSeparatePlaintexts_fails :
    ¬ ∀ (connections : Nat → Connection Nat)
        (requests : List SendRequest),
      (requests.map fun request => request.draw.nonce).Nodup →
      NoncesSeparatePlaintexts
        ((sendRun Aead.checksumAead connections requests).flatMap
          Sent.calls) := by
  intro separated
  let request : SendRequest := ⟨0, .send, [69], SendDraw.constant 1⟩
  let connection : UDPConnection Nat := UDPConnection.create [49]
  have recorded :=
    sendRun_oneDatagram Aead.checksumAead connection
      [69] (SendDraw.constant 1) (by decide)
  have same := separated (fun _ => .udp connection) [request] (by simp)
    ⟨_, request.draw.nonce, [69]⟩
    ⟨_, request.draw.nonce, lengthsOf [69] request.draw⟩
    (by rw [recorded]; exact List.mem_cons_self)
    (by
      rw [recorded]
      exact List.mem_cons_of_mem _ List.mem_cons_self)
    rfl rfl
  have lengths := congrArg List.length same
  simp at lengths

end Dsvpn
