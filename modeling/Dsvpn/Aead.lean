import Dsvpn.ByteBuffer

namespace Dsvpn

/-!
# Authenticated encryption as an interface

`Aead` is a length-preserving authenticated cipher with a detached tag of a
fixed length.  Nothing is said about how it computes.  Two properties are
stated separately, because different results need different ones:

* `Correct`: decryption inverts encryption;
* `Ideal`: under one key, decryption accepts nothing but the outputs of a
  given log of encryption calls.
-/

/-- A detached-tag authenticated cipher, without associated data. -/
structure Aead (tagLength : Nat) where
  encrypt :
    (key nonce plaintext : List UInt8) → List UInt8 × List UInt8
  decrypt :
    (key nonce ciphertext tag : List UInt8) → Option (List UInt8)
  ciphertext_length :
    ∀ key nonce plaintext,
      (encrypt key nonce plaintext).1.length = plaintext.length
  tag_length :
    ∀ key nonce plaintext,
      (encrypt key nonce plaintext).2.length = tagLength
  plaintext_length :
    ∀ {key nonce ciphertext tag plaintext},
      decrypt key nonce ciphertext tag = some plaintext →
      plaintext.length = ciphertext.length

namespace Aead

/-- One encryption call: its key, its nonce and what it encrypted. -/
structure Call where
  key : List UInt8
  nonce : List UInt8
  plaintext : List UInt8
  deriving Repr, DecidableEq

/-- Decryption returns the plaintext of what encryption produced. -/
def Correct (aead : Aead tagLength) : Prop :=
  ∀ key nonce plaintext,
    aead.decrypt key nonce
        (aead.encrypt key nonce plaintext).1
        (aead.encrypt key nonce plaintext).2 =
      some plaintext

/--
Decryption under `key` accepts a triple, and yields a plaintext, only if a
logged encryption call under that key output the triple for that plaintext.
-/
def Ideal
    (aead : Aead tagLength)
    (key : List UInt8)
    (calls : List Call) : Prop :=
  ∀ nonce ciphertext tag plaintext,
    aead.decrypt key nonce ciphertext tag = some plaintext →
    ∃ call,
      call ∈ calls ∧
        call.key = key ∧
        call.nonce = nonce ∧
        call.plaintext = plaintext ∧
        aead.encrypt key nonce plaintext = (ciphertext, tag)

/--
The cipher without forgeries: it decrypts nothing but what it output for one
of the logged calls.
-/
def restrict (aead : Aead tagLength) (calls : List Call) : Aead tagLength where
  encrypt := aead.encrypt
  decrypt := fun key nonce ciphertext tag =>
    (aead.decrypt key nonce ciphertext tag).filter fun plaintext =>
      decide
        (⟨key, nonce, plaintext⟩ ∈ calls ∧
          aead.encrypt key nonce plaintext = (ciphertext, tag))
  ciphertext_length := aead.ciphertext_length
  tag_length := aead.tag_length
  plaintext_length := by
    intro key nonce ciphertext tag plaintext accepted
    exact aead.plaintext_length (Option.filter_eq_some_iff.mp accepted).1

theorem restrict_ideal
    (aead : Aead tagLength)
    (key : List UInt8)
    (calls : List Call) :
    (aead.restrict calls).Ideal key calls := by
  intro nonce ciphertext tag plaintext accepted
  have logged := (Option.filter_eq_some_iff.mp accepted).2
  obtain ⟨member, output⟩ := of_decide_eq_true logged
  exact ⟨_, member, rfl, rfl, rfl, output⟩

/-- A sixteen-byte tag from the nonce and a checksum of the plaintext. -/
def checksumTag (nonce plaintext : List UInt8) : List UInt8 :=
  nonce.take 12 ++ List.replicate (12 - nonce.length) 0 ++
    word32 (plaintext.foldl (fun sum byte => 31 * sum + byte.toNat) 7)

@[simp] theorem length_checksumTag (nonce plaintext : List UInt8) :
    (checksumTag nonce plaintext).length = 16 := by
  simp only [checksumTag, List.length_append, List.length_take,
    List.length_replicate, length_word32]
  omega

/--
A cipher that leaves the text as it is and only checks the tag.  It has the
interface's shape and is small enough to run the model on.
-/
def checksumAead : Aead 16 where
  encrypt := fun _ nonce plaintext =>
    (plaintext, checksumTag nonce plaintext)
  decrypt := fun _ nonce ciphertext tag =>
    if tag = checksumTag nonce ciphertext then some ciphertext else none
  ciphertext_length := fun _ _ _ => rfl
  tag_length := fun _ nonce plaintext =>
    length_checksumTag nonce plaintext
  plaintext_length := by
    intro key nonce ciphertext tag plaintext accepted
    simp only [Option.ite_none_right_eq_some, Option.some.injEq] at accepted
    rw [accepted.2]

theorem checksumAead_correct : checksumAead.Correct := by
  intro key nonce plaintext
  simp [checksumAead]

/-- The same cipher, when it decrypts nothing but what a log contains. -/
def logAead (calls : List Call) : Aead 16 where
  encrypt := checksumAead.encrypt
  decrypt := fun key nonce ciphertext tag =>
    if ⟨key, nonce, ciphertext⟩ ∈ calls then
      checksumAead.decrypt key nonce ciphertext tag
    else
      none
  ciphertext_length := checksumAead.ciphertext_length
  tag_length := checksumAead.tag_length
  plaintext_length := by
    intro key nonce ciphertext tag plaintext accepted
    rw [Option.ite_none_right_eq_some] at accepted
    exact checksumAead.plaintext_length accepted.2

theorem logAead_ideal
    (key : List UInt8)
    (calls : List Call) :
    (logAead calls).Ideal key calls := by
  intro nonce ciphertext tag plaintext accepted
  simp only [logAead, checksumAead, Option.ite_none_right_eq_some,
    Option.some.injEq] at accepted
  obtain ⟨logged, rfl, rfl⟩ := accepted
  exact ⟨_, logged, rfl, rfl, rfl, rfl⟩

end Aead

end Dsvpn
