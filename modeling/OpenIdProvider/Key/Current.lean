import OpenIdProvider.Error
import OpenIdProvider.Key.WebKey

/-!
# Keys in use

What the provider reads from the store to sign and to verify, and keeps for a
while: the private keys with which it signs, latest expiry first, and the set of
published keys.
-/

namespace OpenIdProvider

/-- A key with which tokens are signed. -/
structure TokenKey where
  keyId : String
  expiresAt : Instant
  privateKey : Rsa.PrivateKey
  deriving DecidableEq

/-- The keys that were read from the store at an instant. -/
structure LoadedKeys where
  loadedAt : Instant
  /-- The keys for signing, latest expiry first. -/
  signing : List TokenKey
  published : KeySet
  deriving DecidableEq

namespace TokenKey

/-- Reads the private half of a signing key. -/
def ofSigningKey (k : SigningKey) : Except KeyError TokenKey := do
  return ⟨k.keyId, k.expiresAt, ← KeyMaterial.privateKey k.privateKey k.passphrase⟩

end TokenKey

namespace LoadedKeys

/-- Whether keys are still used at an instant, `ttl` after they were read. -/
def isFresh (l : LoadedKeys) (now : Instant) (ttl : Span) : Bool :=
  (now.since l.loadedAt).nanos < ttl.nanos

/-- The signing keys that can sign at an instant. -/
def candidates (keys : List SigningKey) (now : Instant) : List SigningKey :=
  keys.filter fun k => k.isActiveJwtSigning && now.before k.expiresAt

/-- Reads keys at an instant. All keys that can sign have to be readable; the
others need not be. -/
def load (keys : List SigningKey) (now : Instant) (grace : Span) :
    Except ProtocolError LoadedKeys := do
  let some published := KeySet.publish? keys now grace
    | throw (.serverError "key loading task failed: instant out of range")
  let signing ← ((candidates keys now).mapM TokenKey.ofSigningKey).mapError .keyMaterial
  return ⟨now, signing.mergeSort fun a b => b.expiresAt ≤ a.expiresAt, published⟩

/-- The key that signs at an instant: the one with the latest expiry. -/
def current? (l : LoadedKeys) (now : Instant) : Option TokenKey :=
  l.signing.find? fun k => now.before k.expiresAt

end LoadedKeys

end OpenIdProvider
