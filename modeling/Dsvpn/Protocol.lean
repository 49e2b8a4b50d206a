import Dsvpn.Aead
import Dsvpn.ByteBuffer

namespace Dsvpn

/-!
# The packet protocol

The layout of `ProtocolHeader` and the four operations of `Protocol`, as they
act on the bytes of one buffer whose first byte is the first byte of the
header.  `none` is an access outside an array.

Random draws are inputs.  The encryption calls are logged in the crypto
object; nothing in the program reads the log.
-/

abbrev MAX_BUFFSIZE : Nat := 1500

/-- Payloads up to this length are padded. -/
abbrev OBF_THRESHOLD : Nat := 250

abbrev OBF_MINPADDLE : Nat := 250

abbrev OBF_MAXPADDLE : Nat := 700

/--
`tun_recv_buffer` and `conn_recv_buffer` of `IConnection`: each has
`MAX_BUFFSIZE + 500` bytes.
-/
abbrev PacketBuffer := Buffer 2000

/-- `encryptedData` and `decryptedData`: each has `MAX_BUFFSIZE` bytes. -/
abbrev ScratchBuffer := Buffer 1500

namespace ProtocolHeader

/-- `sizeof(ProtocolHeader)`. -/
abbrev Size : Nat := 52

def NONCE (header : PacketBuffer) : List UInt8 :=
  header.slice 0 12

def LEN_TAG (header : PacketBuffer) : List UInt8 :=
  header.slice 12 16

def PAYLOAD_TAG (header : PacketBuffer) : List UInt8 :=
  header.slice 28 16

def PAYLOAD_LENGTH (header : PacketBuffer) : Nat :=
  ofWord32 (header.slice 44 4)

def PADDING_LENGTH (header : PacketBuffer) : Nat :=
  ofWord32 (header.slice 48 4)

/-- The eight bytes of the two length fields. -/
def lengthFields (header : PacketBuffer) : List UInt8 :=
  header.slice 44 8

end ProtocolHeader

open ProtocolHeader

/-- The crypto object: its key, and the calls of `encryptData` so far. -/
structure AES256GCM where
  key : List UInt8
  calls : List Aead.Call

namespace AES256GCM

/--
The constructor copies at most 30 bytes of `conn_key` into a zeroed array of
32 bytes.
-/
def keyOf (conn_key : List UInt8) : List UInt8 :=
  let copied := conn_key.take 30
  copied ++ List.replicate (32 - copied.length) 0

def encryptData
    (aead : Aead 16)
    (self : AES256GCM)
    (nonce original_data : List UInt8) :
    AES256GCM × List UInt8 × List UInt8 :=
  let output := aead.encrypt self.key nonce original_data
  ({ self with
      calls := self.calls ++ [⟨self.key, nonce, original_data⟩] },
    output.1, output.2)

def decryptData
    (aead : Aead 16)
    (self : AES256GCM)
    (nonce encrypted_data tag_in : List UInt8) : Option (List UInt8) :=
  aead.decrypt self.key nonce encrypted_data tag_in

end AES256GCM

/--
What one send draws at random: the nonce, and the padding that
`addObfuscation` uses when the payload is short.
-/
structure SendDraw where
  nonce : List UInt8
  nonce_length : nonce.length = 12
  padding : List UInt8
  padding_min : OBF_MINPADDLE ≤ padding.length
  padding_max : padding.length ≤ OBF_MAXPADDLE

/-- A draw of equal bytes, with the shortest padding. -/
def SendDraw.constant (byte : UInt8) : SendDraw where
  nonce := List.replicate 12 byte
  nonce_length := by simp
  padding := List.replicate 250 byte
  padding_min := Nat.le_of_eq List.length_replicate.symm
  padding_max :=
    Nat.le_trans (Nat.le_of_eq List.length_replicate) (by decide)

structure Protocol where
  aes256gcm_crypto : AES256GCM
  encryptedData : ScratchBuffer
  decryptedData : ScratchBuffer

namespace Protocol

def create (conn_key : List UInt8) : Protocol where
  aes256gcm_crypto := ⟨AES256GCM.keyOf conn_key, []⟩
  encryptedData := ⟨fun _ => 0⟩
  decryptedData := ⟨fun _ => 0⟩

/-- The key the protocol object encrypts and decrypts under. -/
def key (self : Protocol) : List UInt8 :=
  self.aes256gcm_crypto.key

/-- The encryption calls made through the protocol object. -/
def calls (self : Protocol) : List Aead.Call :=
  self.aes256gcm_crypto.calls

/-- Add padding behind a short payload; a long payload gets none. -/
def addObfuscation
    (header : PacketBuffer)
    (draw : SendDraw) : Option PacketBuffer :=
  if PAYLOAD_LENGTH header > OBF_THRESHOLD then
    some (header.overwrite 48 (word32 0))
  else do
    let header ←
      header.store? (Size + PAYLOAD_LENGTH header) draw.padding
    some (header.overwrite 48 (word32 draw.padding.length))

def EncryptPayload
    (aead : Aead 16)
    (self : Protocol)
    (header : PacketBuffer)
    (draw : SendDraw) : Option (Protocol × PacketBuffer) := do
  let header := header.overwrite 0 draw.nonce
  let payload ← header.load? Size (PAYLOAD_LENGTH header)
  let (crypto, ciphertext, tag) :=
    self.aes256gcm_crypto.encryptData aead (NONCE header) payload
  let encryptedData ← self.encryptedData.store? 0 ciphertext
  let header := header.overwrite 28 tag
  -- copied back, because the cipher is not used in place
  let copied ← encryptedData.load? 0 (PAYLOAD_LENGTH header)
  let header ← header.store? Size copied
  let header ← addObfuscation header draw
  some
    ({ self with
        aes256gcm_crypto := crypto
        encryptedData := encryptedData },
      header)

/-- The third component is the length of what follows the header. -/
def EncryptHeader
    (aead : Aead 16)
    (self : Protocol)
    (header : PacketBuffer) : Protocol × PacketBuffer × Nat :=
  let original_len :=
    (PADDING_LENGTH header + PAYLOAD_LENGTH header) % 2 ^ 32
  let (crypto, encrypted_length, tag) :=
    self.aes256gcm_crypto.encryptData aead
      (NONCE header) (lengthFields header)
  let header := header.overwrite 12 tag
  let header := header.overwrite 44 encrypted_length
  ({ self with aes256gcm_crypto := crypto }, header, original_len)

def DecryptPayload
    (aead : Aead 16)
    (self : Protocol)
    (header : PacketBuffer) :
    Option (Protocol × PacketBuffer × Bool) :=
  if PAYLOAD_LENGTH header > MAX_BUFFSIZE then
    some (self, header, false)
  else do
    let ciphertext ← header.load? Size (PAYLOAD_LENGTH header)
    match self.aes256gcm_crypto.decryptData aead
        (NONCE header) ciphertext (PAYLOAD_TAG header) with
    | none =>
        some (self, header, false)
    | some plaintext => do
        let decryptedData ← self.decryptedData.store? 0 plaintext
        let copied ← decryptedData.load? 0 (PAYLOAD_LENGTH header)
        let header ← header.store? Size copied
        some ({ self with decryptedData := decryptedData }, header, true)

/--
Zero stands both for a rejected header and for an accepted one whose two
lengths add up to zero modulo `2 ^ 32`.
-/
def DecryptHeader
    (aead : Aead 16)
    (self : Protocol)
    (header : PacketBuffer) : PacketBuffer × Nat :=
  match self.aes256gcm_crypto.decryptData aead
      (NONCE header) (lengthFields header) (LEN_TAG header) with
  | none =>
      (header, 0)
  | some len =>
      (header.overwrite 44 len,
        (ofWord32 (len.take 4) + ofWord32 (len.drop 4)) % 2 ^ 32)

end Protocol

end Dsvpn
