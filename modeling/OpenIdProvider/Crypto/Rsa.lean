import OpenIdProvider.Crypto.Sha256
import OpenIdProvider.Text.Base64

/-!
# RSA keys and signatures

RSA keys as numbers, and the signature scheme RSASSA-PKCS1-v1_5 with SHA-256.
Signing and verification take moduli of 2048 to 8192 bits.
-/

namespace OpenIdProvider.Rsa

/-- `b ^ e` modulo `n`, by squaring. -/
def powMod (b e n : Nat) : Nat :=
  if e = 0 then 1 % n
  else
    let half := powMod (b * b % n) (e / 2) n
    if e % 2 = 1 then half * b % n else half
termination_by e
decreasing_by omega

/-- The number of bits of `n`. -/
def bitLength (n : Nat) : Nat :=
  if n = 0 then 0 else n.log2 + 1

/-- The least number of bytes that hold `n`, and at least one. -/
def byteLength (n : Nat) : Nat :=
  max 1 ((bitLength n + 7) / 8)

/-- The big-endian bytes of `n` without leading zeros; one byte for zero. -/
def toBytes (n : Nat) : Bytes :=
  Sha256.bigEndian (byteLength n) n

/-- The number of big-endian bytes. -/
def ofBytes (bs : Bytes) : Nat :=
  bs.foldl (fun n b => 256 * n + b.toNat) 0

/-- A public key. -/
structure PublicKey where
  modulus : Nat
  exponent : Nat
  deriving DecidableEq, Repr

/-- A private key of two primes. -/
structure PrivateKey where
  modulus : Nat
  publicExponent : Nat
  privateExponent : Nat
  prime1 : Nat
  prime2 : Nat
  deriving DecidableEq, Repr

namespace PublicKey

/-- The largest public exponent in use. -/
def maxExponent : Nat := 0x1ffffffff

/-- The public exponents in use. -/
def exponentInRange (e : Nat) : Bool :=
  2 ≤ e && e ≤ maxExponent

/-- Whether a key can be read: its modulus has at most 4096 bits. -/
def readable (k : PublicKey) : Bool :=
  bitLength k.modulus ≤ 4096 && exponentInRange k.exponent

end PublicKey

namespace PrivateKey

/-- The public half. -/
def publicKey (k : PrivateKey) : PublicKey :=
  ⟨k.modulus, k.publicExponent⟩

/-- Whether the numbers of a key belong together: the modulus is the product of
the primes, and the exponents are inverse modulo each prime less one. -/
def consistent (k : PrivateKey) : Bool :=
  let product := k.publicExponent * k.privateExponent
  PublicKey.exponentInRange k.publicExponent
    && 1 < k.prime1 && 1 < k.prime2 && k.prime1 * k.prime2 == k.modulus
    && product % (k.prime1 - 1) == 1 && product % (k.prime2 - 1) == 1

/-- The key of two primes and a public exponent. Its private exponent is the least
one: the inverse modulo the least common multiple of the primes less one, if the
public exponent has an inverse there. -/
def ofPrimes (p q e : Nat) : PrivateKey :=
  let m := Nat.lcm (p - 1) (q - 1)
  let r := m % e
  let k := ((List.range e).find? fun k => (k * r + 1) % e == 0).getD 0
  ⟨p * q, e, (k * m + 1) / e, p, q⟩

end PrivateKey

/-! ## Signatures -/

/-- Whether a modulus has a size that signatures are made and verified with. -/
def signatureSize (modulus : Nat) : Bool :=
  2048 ≤ bitLength modulus && bitLength modulus ≤ 8192

/-- The prefix that names SHA-256 before its digest. -/
def digestInfo : Bytes :=
  [0x30, 0x31, 0x30, 0x0d, 0x06, 0x09, 0x60, 0x86, 0x48, 0x01, 0x65, 0x03, 0x04, 0x02, 0x01, 0x05,
    0x00, 0x04, 0x20]

/-- The block of `length` bytes that is signed for a message. -/
def encodedMessage (length : Nat) (message : Bytes) : Bytes :=
  let info := digestInfo ++ Sha256.digest message
  0 :: 1 :: List.replicate (length - 3 - info.length) 0xff ++ 0 :: info

/-- The signature of a message, for a modulus of a fitting size. -/
def sign? (k : PrivateKey) (message : Bytes) : Option Bytes :=
  if signatureSize k.modulus then
    let length := byteLength k.modulus
    some (Sha256.bigEndian length
      (powMod (ofBytes (encodedMessage length message)) k.privateExponent k.modulus))
  else none

/-- Whether a signature is that of a message under a public key. -/
def verify (k : PublicKey) (message signature : Bytes) : Bool :=
  let length := byteLength k.modulus
  signatureSize k.modulus && signature.length == length && ofBytes signature < k.modulus
    && k.exponent % 2 == 1 && 3 ≤ k.exponent && k.exponent ≤ PublicKey.maxExponent
    && Sha256.bigEndian length (powMod (ofBytes signature) k.exponent k.modulus)
      == encodedMessage length message

end OpenIdProvider.Rsa
