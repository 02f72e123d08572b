import OpenIdProvider.Time.Timestamp

/-!
# Signing keys

A key pair that signs tokens, with its parts as PEM text. A key is active until
it is revoked, for good, and it signs only until it expires.
-/

namespace OpenIdProvider

/-- What a key is for. -/
inductive KeyUse where
  | jwtSigning
  | encryption
  deriving DecidableEq

/-- Whether a key may be used. -/
inductive KeyStatus where
  | active
  | revoked
  deriving DecidableEq

namespace KeyUse

/-- The uses with their names. -/
def names : List (String × KeyUse) :=
  [("JWT_SIGNING", jwtSigning), ("ENCRYPTION", encryption)]

/-- The name of a use. -/
def name : KeyUse → String
  | jwtSigning => "JWT_SIGNING"
  | encryption => "ENCRYPTION"

end KeyUse

namespace KeyStatus

/-- The states with their names. -/
def names : List (String × KeyStatus) :=
  [("active", active), ("revoked", revoked)]

/-- The name of a state. -/
def name : KeyStatus → String
  | active => "active"
  | revoked => "revoked"

end KeyStatus

/-- A signing key. -/
structure SigningKey where
  keyId : String
  tenantId : String
  /-- The private half as PEM text, encrypted if there is a passphrase. -/
  privateKey : String
  passphrase : Option String
  publicKey : Option String
  /-- A chain of certificates, the key's own first. -/
  keyCertificate : Option String
  keyUse : KeyUse
  keyStatus : KeyStatus
  expiresAt : Instant
  createdAt : Instant
  deriving DecidableEq

namespace SigningKey

/-- An active key for signing tokens, without a public half. -/
def create (keyId tenantId privateKey : String) (expiresAt now : Instant) : SigningKey :=
  { keyId, tenantId, privateKey, passphrase := none, publicKey := none, keyCertificate := none
    keyUse := .jwtSigning, keyStatus := .active, expiresAt, createdAt := now }

/-- Whether a key is active and signs tokens. -/
def isActiveJwtSigning (k : SigningKey) : Bool :=
  k.keyStatus == .active && k.keyUse == .jwtSigning

/-- A key after its revocation. -/
def revoke (k : SigningKey) : SigningKey :=
  { k with keyStatus := .revoked }

theorem isActiveJwtSigning_revoke (k : SigningKey) : k.revoke.isActiveJwtSigning = false := rfl

/-- The JSON form of a key. -/
def toJson (k : SigningKey) : Json :=
  .object [("key_id", .string k.keyId), ("tenant_id", .string k.tenantId),
    ("private_key", .string k.privateKey), ("passphrase", .ofText? k.passphrase),
    ("public_key", .ofText? k.publicKey), ("key_certificate", .ofText? k.keyCertificate),
    ("key_use", .string k.keyUse.name), ("key_status", .string k.keyStatus.name),
    ("expires_at", k.expiresAt.toJson), ("created_at", k.createdAt.toJson)]

/-- The names of the fields, in order. -/
def fieldNames : List String :=
  ["key_id", "tenant_id", "private_key", "passphrase", "public_key", "key_certificate", "key_use",
    "key_status", "expires_at", "created_at"]

/-- Reads a key. -/
def ofJson? (j : Json) : Option SigningKey := do
  let r ← Json.Record.ofJson? fieldNames j
  return {
    keyId := ← r.required "key_id" Json.text?
    tenantId := ← r.required "tenant_id" Json.text?
    privateKey := ← r.required "private_key" Json.text?
    passphrase := ← r.optional "passphrase" Json.text?
    publicKey := ← r.optional "public_key" Json.text?
    keyCertificate := ← r.optional "key_certificate" Json.text?
    keyUse := ← r.required "key_use" (Json.variant? KeyUse.names)
    keyStatus := ← r.required "key_status" (Json.variant? KeyStatus.names)
    expiresAt := ← r.required "expires_at" Instant.ofJson?
    createdAt := ← r.required "created_at" Instant.ofJson? }

/-- The description of a key in diagnostics: its secret parts are left out. -/
def description (k : SigningKey) : String :=
  "SigningKey " ++ k.keyId ++ " of " ++ k.tenantId ++ ", " ++ k.keyUse.name ++ ", "
    ++ k.keyStatus.name ++ ", expires " ++ k.expiresAt.timestamp

end SigningKey

end OpenIdProvider
