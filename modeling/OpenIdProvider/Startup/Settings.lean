import OpenIdProvider.Config
import OpenIdProvider.Text.Decimal

/-!
# Settings at startup

The settings with which a server starts, read from named variables. A variable
that is missing, or is no number where one is expected, counts as its default.
-/

namespace OpenIdProvider

/-- The settings with which a server starts. -/
structure StartupSettings where
  host : String
  port : Nat
  baseUrl : String
  loginUrl : String
  rootTenantId : String
  defaultTokenTtl : Int
  keyCacheTtl : Nat
  signingKeyId : String
  /-- The file with the private key to sign with, if one is to be seeded. -/
  signingKeyFile : Option String
  signingKeyPassphrase : Option String
  signingPublicKeyFile : Option String
  signingCertificateFile : Option String
  signingKeyValidityDays : Int
  /-- How many seconds lie between two purges of expired records. -/
  purgeInterval : Nat
  logLevel : String
  deriving DecidableEq

namespace StartupSettings

/-- The settings that hold where nothing else is asked for. -/
def standard : StartupSettings where
  host := Config.standard.server.host
  port := Config.standard.server.port
  baseUrl := Config.standard.server.baseUrl
  loginUrl := Config.standard.loginUrl
  rootTenantId := Config.standard.keys.rootTenantId
  defaultTokenTtl := Config.standard.tokens.defaultTokenTtl
  keyCacheTtl := Config.standard.keys.cacheTtl
  signingKeyId := "primary"
  signingKeyFile := none
  signingKeyPassphrase := none
  signingPublicKeyFile := none
  signingCertificateFile := none
  signingKeyValidityDays := 90
  purgeInterval := 60
  logLevel := "info"

/-- The settings of a server on the machine itself, on any free port. -/
def loopback : StartupSettings :=
  { standard with host := "127.0.0.1", port := 0, logLevel := "debug" }

/-- The name by which a host is reached. -/
def publicHost (host : String) : String :=
  if host = "0.0.0.0" then "localhost" else host

/-- The error of a token lifetime that is not positive. -/
def ttlMessage : String :=
  "IDP_DEFAULT_TOKEN_TTL must be positive"

/-- The settings in an environment. -/
def ofEnvironment (get : String → Option String) : Except String StartupSettings :=
  let text (name default : String) : String := (get name).getD default
  let unsigned (name : String) (bound default : Nat) : Nat :=
    ((get name).bind (Decimal.unsigned? bound)).getD default
  let signed (name : String) (default : Int) : Int :=
    ((get name).bind (Decimal.signed? (UInt64.size / 2))).getD default
  let host := text "IDP_HOST" standard.host
  let port := unsigned "IDP_PORT" UInt16.size standard.port
  let defaultTokenTtl := signed "IDP_DEFAULT_TOKEN_TTL" standard.defaultTokenTtl
  if defaultTokenTtl ≤ 0 then .error ttlMessage
  else .ok {
    host, port, defaultTokenTtl
    baseUrl := text "IDP_BASE_URL" ("http://" ++ publicHost host ++ ":" ++ Decimal.ofNat port)
    loginUrl := text "IDP_LOGIN_URL" standard.loginUrl
    rootTenantId := text "IDP_ROOT_TENANT_ID" standard.rootTenantId
    keyCacheTtl := unsigned "IDP_KEY_CACHE_TTL" UInt64.size standard.keyCacheTtl
    signingKeyId := text "IDP_SIGNING_KEY_ID" standard.signingKeyId
    signingKeyFile := get "IDP_SIGNING_KEY_FILE"
    signingKeyPassphrase := get "IDP_SIGNING_KEY_PASSPHRASE"
    signingPublicKeyFile := get "IDP_SIGNING_PUBLIC_KEY_FILE"
    signingCertificateFile := get "IDP_SIGNING_CERTIFICATE_FILE"
    signingKeyValidityDays := signed "IDP_SIGNING_KEY_VALIDITY_DAYS" standard.signingKeyValidityDays
    purgeInterval := unsigned "IDP_PURGE_INTERVAL" UInt64.size standard.purgeInterval
    logLevel := text "RUST_LOG" standard.logLevel }

/-- The settings of the provider that the server runs. -/
def protocolConfig (s : StartupSettings) : Config where
  server := ⟨s.host, s.port, s.baseUrl⟩
  loginUrl := s.loginUrl
  tokens := { Config.standard.tokens with defaultTokenTtl := s.defaultTokenTtl }
  keys := { Config.standard.keys with rootTenantId := s.rootTenantId, cacheTtl := s.keyCacheTtl }

/-- The JSON form of the settings, with those of the provider. -/
def toJson (s : StartupSettings) : Json :=
  .object [("host", .string s.host), ("port", .integer s.port), ("base_url", .string s.baseUrl),
    ("login_url", .string s.loginUrl), ("root_tenant_id", .string s.rootTenantId),
    ("default_token_ttl", .integer s.defaultTokenTtl), ("key_cache_ttl", .integer s.keyCacheTtl),
    ("signing_key_id", .string s.signingKeyId), ("signing_key_file", .ofText? s.signingKeyFile),
    ("signing_key_passphrase", .ofText? s.signingKeyPassphrase),
    ("signing_public_key_file", .ofText? s.signingPublicKeyFile),
    ("signing_certificate_file", .ofText? s.signingCertificateFile),
    ("signing_key_validity_days", .integer s.signingKeyValidityDays),
    ("purge_interval", .integer s.purgeInterval), ("log_level", .string s.logLevel),
    ("protocol", s.protocolConfig.toJson)]

/-- The description of settings in diagnostics: the passphrase is left out. -/
def description (s : StartupSettings) : String :=
  "server " ++ s.host ++ ":" ++ Decimal.ofNat s.port ++ ", base " ++ s.baseUrl ++ ", login "
    ++ s.loginUrl ++ ", root tenant " ++ s.rootTenantId ++ ", signing key " ++ s.signingKeyId
    ++ " from " ++ s.signingKeyFile.getD "-" ++ ", public key " ++ s.signingPublicKeyFile.getD "-"
    ++ ", certificate " ++ s.signingCertificateFile.getD "-" ++ ", log level " ++ s.logLevel

end StartupSettings

end OpenIdProvider
