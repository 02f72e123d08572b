import OpenIdProvider.Crypto.KeyMaterial
import OpenIdProvider.Entity.SigningKey
import OpenIdProvider.Json.Record
import OpenIdProvider.Text.Base64

/-!
# Published keys

The public half of a signing key in the form in which it is published, and the
set of all published keys. A key is published while it is active and signs tokens,
and for a grace period after it has expired.
-/

namespace OpenIdProvider

/-- A public RSA key in JSON form. -/
structure WebKey where
  use : String
  algorithm : String
  keyId : String
  /-- The modulus in base64url. -/
  modulus : String
  /-- The exponent in base64url. -/
  exponent : String
  /-- The certificates of the key in base64, its own first. -/
  certificates : Option (List String)
  deriving DecidableEq

namespace WebKey

/-- The form of a key for signatures. -/
def signing (keyId : String) (k : Rsa.PublicKey) (certificates : Option (List String)) : WebKey where
  use := "sig"
  algorithm := "RS256"
  keyId
  modulus := Base64.encodeUrl (Rsa.toBytes k.modulus)
  exponent := Base64.encodeUrl (Rsa.toBytes k.exponent)
  certificates

/-- The certificates of a chain in base64. -/
def chainTexts (chain : KeyMaterial.CertificateChain) : List String :=
  chain.certificates.map Base64.encode

/-- The form of a signing key: with the key of its certificate, or with its public
key if it has no certificate. A key with neither has none. -/
def ofSigningKey (k : SigningKey) : Except KeyError (Option WebKey) := do
  match k.keyCertificate, k.publicKey with
  | some pem, _ =>
    let chain ← KeyMaterial.certificateChain pem
    return some (signing k.keyId chain.publicKey (some (chainTexts chain)))
  | none, some pem => return some (signing k.keyId (← KeyMaterial.publicKey pem) none)
  | none, none => return none

/-- The form of a signing key, if it has a readable one. -/
def ofSigningKey? (k : SigningKey) : Option WebKey :=
  match ofSigningKey k with
  | .ok w => w
  | .error _ => none

/-- The key itself. -/
def publicKey? (w : WebKey) : Option Rsa.PublicKey := do
  return ⟨Rsa.ofBytes (← Base64.decodeUrl? w.modulus), Rsa.ofBytes (← Base64.decodeUrl? w.exponent)⟩

/-- The JSON form of a key. -/
def toJson (w : WebKey) : Json :=
  .object ([("kty", .string "RSA"), ("use", .string w.use), ("alg", .string w.algorithm),
      ("kid", .string w.keyId), ("n", .string w.modulus), ("e", .string w.exponent)]
    ++ Json.memberIf "x5c" Json.ofTexts w.certificates)

/-- Reads a key. -/
def ofJson? (j : Json) : Option WebKey := do
  let r ← Json.Record.ofJson? ["kty", "use", "alg", "kid", "n", "e", "x5c"] j
  let _ ← r.required "kty" (Json.variant? [("RSA", ())])
  return {
    use := ← r.required "use" Json.text?
    algorithm := ← r.required "alg" Json.text?
    keyId := ← r.required "kid" Json.text?
    modulus := ← r.required "n" Json.text?
    exponent := ← r.required "e" Json.text?
    certificates := ← r.optional "x5c" (Json.list? Json.text?) }

end WebKey

/-- Whether a signing key is published at an instant; no answer, if its expiry and
the grace period lead out of range. -/
def SigningKey.isPublished? (k : SigningKey) (now : Instant) (grace : Span) : Option Bool :=
  if k.isActiveJwtSigning then (k.expiresAt.add? grace).map now.before else some false

/-- A set of published keys. -/
structure KeySet where
  keys : List WebKey
  deriving DecidableEq

namespace KeySet

/-- The key of an identifier; the first one, if there are several. -/
def find? (s : KeySet) (keyId : String) : Option WebKey :=
  s.keys.find? fun k => k.keyId == keyId

/-- The set of those signing keys that are published and have a readable public
half. -/
def publish? (keys : List SigningKey) (now : Instant) (grace : Span) : Option KeySet := do
  let published ← keys.filterM fun k => k.isPublished? now grace
  return ⟨published.filterMap WebKey.ofSigningKey?⟩

/-- The JSON form of a set. -/
def toJson (s : KeySet) : Json :=
  .object [("keys", .array (s.keys.map WebKey.toJson))]

/-- Reads a set. -/
def ofJson? (j : Json) : Option KeySet := do
  let r ← Json.Record.ofJson? ["keys"] j
  return ⟨← r.required "keys" (Json.list? WebKey.ofJson?)⟩

end KeySet

end OpenIdProvider
