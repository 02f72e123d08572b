import OpenIdProvider.Provider.Basic
import OpenIdProvider.Startup.Settings

/-!
# Startup

What a server puts into its store before it answers: the root tenant, and a
signing key from files if there is one. Key files are read and checked at once, so
that a server with unusable ones does not start.
-/

namespace OpenIdProvider

/-- Why a server does not start. -/
inductive StartupError where
  | reading (file : String)
  | signingKey (file : String)
  | validity (days : Int)
  | certificate (file : String)
  | publicKey (file : String)
  | noPublicHalf
  | storage (e : StoreError)
  deriving DecidableEq, Repr

namespace StartupError

/-- The text of an error. -/
def message : StartupError → String
  | reading file => "reading " ++ file
  | signingKey file => "loading signing key " ++ file
  | validity days => "signing key validity of " ++ Decimal.ofInt days ++ " days is out of range"
  | certificate file => "parsing certificate " ++ file
  | publicKey file => "parsing public key " ++ file
  | noPublicHalf => "IDP_SIGNING_KEY_FILE requires IDP_SIGNING_PUBLIC_KEY_FILE or "
      ++ "IDP_SIGNING_CERTIFICATE_FILE"
  | storage e => e.message

end StartupError

namespace StartupSettings

/-- The text of a file. -/
def fileText (files : String → Option String) (file : String) : Except StartupError String :=
  match files file with
  | some text => .ok text
  | none => .error (.reading file)

/-- A key with its public half: the certificate if a file with one is named, or else
the public key. -/
def withPublicHalf (s : StartupSettings) (files : String → Option String) (k : SigningKey) :
    Except StartupError SigningKey := do
  match s.signingCertificateFile, s.signingPublicKeyFile with
  | some file, _ =>
    let pem ← fileText files file
    let _ ← (KeyMaterial.certificateChain pem).mapError fun _ => .certificate file
    return { k with keyCertificate := some pem }
  | none, some file =>
    let pem ← fileText files file
    let _ ← (KeyMaterial.publicKey pem).mapError fun _ => .publicKey file
    return { k with publicKey := some pem }
  | none, none => throw .noPublicHalf

/-- The signing key in a file, valid from an instant on. -/
def signingKey (s : StartupSettings) (files : String → Option String) (now : Instant)
    (file : String) : Except StartupError SigningKey := do
  let pem ← fileText files file
  let _ ← (KeyMaterial.privateKey pem s.signingKeyPassphrase).mapError fun _ => .signingKey file
  let some expiresAt := (Span.ofDays? s.signingKeyValidityDays).bind now.add?
    | throw (.validity s.signingKeyValidityDays)
  let k := SigningKey.create s.signingKeyId s.rootTenantId pem expiresAt now
  s.withPublicHalf files { k with passphrase := s.signingKeyPassphrase }

end StartupSettings

namespace Store

/-- The store with a root tenant. -/
def withRootTenant (s : Store) (tenantId : String) (now : Instant) : Store :=
  if s.tenants.contains tenantId then s
  else { s with tenants := s.tenants.put { Tenant.create tenantId now with name := "Root" } }

end Store

namespace Provider

/-- The event of a signing key from files. -/
def keySeededEvent (s : StartupSettings) : AuditEvent :=
  { eventType := .signingKeysLoaded, tenantId := s.rootTenantId
    details := [("kid", s.signingKeyId)] }

/-- Puts the signing key of settings into the store, if they name one, and gives its
identifier. -/
def seedSigningKey (p : Provider) (s : StartupSettings) (files : String → Option String) :
    Except StartupError (Option String × Provider) := do
  match s.signingKeyFile with
  | none => return (none, p)
  | some file =>
    let k ← s.signingKey files p.now file
    let store ← (p.store.createSigningKey k).mapError .storage
    return (some s.signingKeyId, { p with store, log := p.log ++ [keySeededEvent s] })

/-- The provider of a server before anything is seeded. -/
def initial (s : StartupSettings) (now : Instant) (random : Nat → Vector UInt8 32) : Provider :=
  (create? s.protocolConfig (Store.empty.withRootTenant s.rootTenantId now) now random).get rfl

/-- The provider of a server that starts with settings. -/
def start (s : StartupSettings) (files : String → Option String) (now : Instant)
    (random : Nat → Vector UInt8 32) : Except StartupError Provider := do
  return (← (initial s now random).seedSigningKey s files).2

end Provider

end OpenIdProvider
