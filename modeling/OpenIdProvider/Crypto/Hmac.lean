import OpenIdProvider.Crypto.Sha256

/-!
# HMAC and PBKDF2 with SHA-256

The message authentication code over SHA-256, and the key derivation that iterates
it. A key is kept as the two chaining states after its padded blocks.
-/

namespace OpenIdProvider.Hmac

/-- A key, as the states after the inner and the outer padded block. -/
structure Key where
  inner : Sha256.State
  outer : Sha256.State

/-- The bytes of a key in one block; a longer key is hashed first. -/
def keyBlock (key : Bytes) : Bytes :=
  let k := if 64 < key.length then Sha256.digest key else key
  k ++ List.replicate (64 - k.length) 0

/-- Prepares a key. -/
def Key.ofBytes (key : Bytes) : Key :=
  let block := keyBlock key
  ⟨Sha256.absorb Sha256.initial 1 (block.map (· ^^^ 0x36)),
    Sha256.absorb Sha256.initial 1 (block.map (· ^^^ 0x5c))⟩

/-- The code of a message under a prepared key. -/
def Key.code (k : Key) (message : Bytes) : Bytes :=
  Sha256.finish k.outer 64 (Sha256.finish k.inner 64 message)

/-- The code of a message under a key. -/
def code (key message : Bytes) : Bytes :=
  (Key.ofBytes key).code message

/-- The exclusive or of `sum` and the next `n` codes of the chain after `last`. -/
def chain (k : Key) : (n : Nat) → (last sum : Bytes) → Bytes
  | 0, _, sum => sum
  | n + 1, last, sum =>
    let next := k.code last
    chain k n next (List.zipWith (· ^^^ ·) sum next)

/-- Derives a key of `length` bytes from a password. -/
def deriveKey (password salt : Bytes) (iterations length : Nat) : Bytes :=
  let k := Key.ofBytes password
  let blocks := (List.range ((length + 31) / 32)).flatMap fun i =>
    let first := k.code (salt ++ Sha256.bigEndian 4 (i + 1))
    chain k (iterations - 1) first first
  blocks.take length

end OpenIdProvider.Hmac
