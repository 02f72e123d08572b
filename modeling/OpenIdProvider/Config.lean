import OpenIdProvider.Json.Record
import OpenIdProvider.Time.Instant

/-!
# Configuration

The settings of a provider, and the addresses that follow from them.
-/

namespace OpenIdProvider

/-- Where the provider listens and how it is reached. -/
structure ServerSettings where
  host : String
  port : Nat
  baseUrl : String
  deriving DecidableEq

/-- How long codes and tokens live, in seconds. -/
structure TokenSettings where
  defaultTokenTtl : Int
  pendingLoginTtl : Int
  authorizationCodeTtl : Int
  defaultRefreshTokenTtl : Int
  deriving DecidableEq

/-- Whose signing keys are used, and how. -/
structure KeySettings where
  rootTenantId : String
  /-- For how many seconds the keys read from the store are used. -/
  cacheTtl : Nat
  /-- For how many seconds an expired key is still published. -/
  gracePeriod : Int
  deriving DecidableEq

/-- The settings of a provider. -/
structure Config where
  server : ServerSettings
  /-- The address of the login page. -/
  loginUrl : String
  tokens : TokenSettings
  keys : KeySettings
  deriving DecidableEq

namespace Config

/-- The settings that hold where nothing else is asked for. -/
def standard : Config where
  server := ⟨"0.0.0.0", 8080, "http://localhost:8080"⟩
  loginUrl := "http://localhost:3000/login"
  tokens := ⟨3600, 300, 600, 2592000⟩
  keys := ⟨"root", 43200, 2592000⟩

/-- The issuer of a tenant's tokens: the base address without slashes at its end,
and the tenant. -/
def issuer (c : Config) (tenantId : String) : String :=
  String.ofList (c.server.baseUrl.toList.reverse.dropWhile (· = '/')).reverse ++ "/" ++ tenantId

/-- The address of a tenant's token endpoint. -/
def tokenEndpoint (c : Config) (tenantId : String) : String :=
  c.issuer tenantId ++ "/oidc/token"

/-- For how long the keys read from the store are used. -/
def keyCacheTtl (c : Config) : Span :=
  (Span.ofSeconds? c.keys.cacheTtl).getD .longest

/-! ## JSON -/

/-- The JSON form of the settings. -/
def toJson (c : Config) : Json :=
  .object [
    ("server", .object [("host", .string c.server.host), ("port", .integer c.server.port),
      ("base_url", .string c.server.baseUrl)]),
    ("login", .object [("login_url", .string c.loginUrl)]),
    ("tokens", .object [("default_token_ttl_seconds", .integer c.tokens.defaultTokenTtl),
      ("pre_auth_ttl_seconds", .integer c.tokens.pendingLoginTtl),
      ("authorization_code_ttl_seconds", .integer c.tokens.authorizationCodeTtl),
      ("default_refresh_token_ttl_seconds", .integer c.tokens.defaultRefreshTokenTtl)]),
    ("keys", .object [("root_tenant_id", .string c.keys.rootTenantId),
      ("cache_ttl_seconds", .integer c.keys.cacheTtl),
      ("jwks_grace_period_seconds", .integer c.keys.gracePeriod)])]

/-- Reads the settings of the server. -/
def serverOfJson? (j : Json) : Option ServerSettings := do
  let r ← Json.Record.ofJson? ["host", "port", "base_url"] j
  return {
    host := ← r.required "host" Json.text?
    port := ← r.required "port" (Json.natural? UInt16.size)
    baseUrl := ← r.required "base_url" Json.text? }

/-- Reads the address of the login page. -/
def loginOfJson? (j : Json) : Option String := do
  let r ← Json.Record.ofJson? ["login_url"] j
  r.required "login_url" Json.text?

/-- Reads the lifetimes. -/
def tokensOfJson? (j : Json) : Option TokenSettings := do
  let r ← Json.Record.ofJson? ["default_token_ttl_seconds", "pre_auth_ttl_seconds",
    "authorization_code_ttl_seconds", "default_refresh_token_ttl_seconds"] j
  return {
    defaultTokenTtl := ← r.required "default_token_ttl_seconds" Json.int64?
    pendingLoginTtl := ← r.required "pre_auth_ttl_seconds" Json.int64?
    authorizationCodeTtl := ← r.required "authorization_code_ttl_seconds" Json.int64?
    defaultRefreshTokenTtl := ← r.required "default_refresh_token_ttl_seconds" Json.int64? }

/-- Reads the settings of the keys. -/
def keysOfJson? (j : Json) : Option KeySettings := do
  let r ← Json.Record.ofJson?
    ["root_tenant_id", "cache_ttl_seconds", "jwks_grace_period_seconds"] j
  return {
    rootTenantId := ← r.required "root_tenant_id" Json.text?
    cacheTtl := ← r.required "cache_ttl_seconds" (Json.natural? UInt64.size)
    gracePeriod := ← r.required "jwks_grace_period_seconds" Json.int64? }

/-- Reads the settings. -/
def ofJson? (j : Json) : Option Config := do
  let r ← Json.Record.ofJson? ["server", "login", "tokens", "keys"] j
  return {
    server := ← r.required "server" serverOfJson?
    loginUrl := ← r.required "login" loginOfJson?
    tokens := ← r.required "tokens" tokensOfJson?
    keys := ← r.required "keys" keysOfJson? }

end Config

end OpenIdProvider
