import OpenIdProvider.Text.Set
import OpenIdProvider.Time.Timestamp

/-!
# Clients

A client is an application that asks for tokens. Its tenant and its secret are
fixed for life; the other settings change through a `ClientUpdate`, which gives
the settings to change and leaves the others.
-/

namespace OpenIdProvider

/-- The kind of a client. -/
inductive ClientType where
  | serviceAccount
  | device
  | userDelegated
  | standard
  deriving DecidableEq

namespace ClientType

/-- The kinds with their names. -/
def names : List (String × ClientType) :=
  [("service_account", serviceAccount), ("device", device), ("user_delegated", userDelegated),
    ("standard", standard)]

/-- The name of a kind. -/
def name : ClientType → String
  | serviceAccount => "service_account"
  | device => "device"
  | userDelegated => "user_delegated"
  | standard => "standard"

end ClientType

/-- A client. -/
structure Client where
  clientId : String
  clientSecret : String
  clientType : ClientType
  tenantId : String
  clientName : Option String
  enabled : Bool
  oidcEnabled : Bool
  pkceEnabled : Bool
  redirectUris : TextSet
  /-- How often a grant may be refreshed. -/
  maxRefreshTokenCount : Nat
  /-- The lifetime of an end user's tokens, if not the default one. -/
  endUserTokenTtlSeconds : Option Int
  /-- The lifetime of a refresh token, if not the default one. -/
  refreshTokenTtlSeconds : Option Int
  createdAt : Instant
  updatedAt : Instant
  deriving DecidableEq

/-- The settings of a client to change. -/
structure ClientUpdate where
  clientName : Option String
  enabled : Option Bool
  oidcEnabled : Option Bool
  pkceEnabled : Option Bool
  redirectUris : Option TextSet
  maxRefreshTokenCount : Option Nat
  endUserTokenTtlSeconds : Option Int
  refreshTokenTtlSeconds : Option Int
  deriving DecidableEq

namespace Client

/-- A new client with everything at its default. -/
def create (clientId clientSecret tenantId : String) (clientType : ClientType) (now : Instant) :
    Client :=
  { clientId, clientSecret, clientType, tenantId, clientName := none, enabled := true
    oidcEnabled := true, pkceEnabled := false, redirectUris := .empty, maxRefreshTokenCount := 0
    endUserTokenTtlSeconds := none, refreshTokenTtlSeconds := none, createdAt := now
    updatedAt := now }

/-- Whether a client acts on its own behalf. -/
def isServiceAccount (c : Client) : Bool :=
  c.clientType == .serviceAccount

/-- Whether a client gets refresh tokens. -/
def refreshEnabled (c : Client) : Bool :=
  0 < c.maxRefreshTokenCount

/-- Whether a client may ask for the scopes granted to it, besides the standard
ones. -/
def usesDelegatedScopes (c : Client) : Bool :=
  (c.clientType == .device || c.clientType == .userDelegated) && c.refreshEnabled

/-- A client after an update at an instant. -/
def applyUpdate (c : Client) (u : ClientUpdate) (now : Instant) : Client :=
  { c with
    clientName := u.clientName <|> c.clientName
    enabled := u.enabled.getD c.enabled
    oidcEnabled := u.oidcEnabled.getD c.oidcEnabled
    pkceEnabled := u.pkceEnabled.getD c.pkceEnabled
    redirectUris := u.redirectUris.getD c.redirectUris
    maxRefreshTokenCount := u.maxRefreshTokenCount.getD c.maxRefreshTokenCount
    endUserTokenTtlSeconds := u.endUserTokenTtlSeconds <|> c.endUserTokenTtlSeconds
    refreshTokenTtlSeconds := u.refreshTokenTtlSeconds <|> c.refreshTokenTtlSeconds
    updatedAt := now }

/-- The JSON form of a client. -/
def toJson (c : Client) : Json :=
  .object [("client_id", .string c.clientId), ("client_secret", .string c.clientSecret),
    ("client_type", .string c.clientType.name), ("tenant_id", .string c.tenantId),
    ("client_name", .ofText? c.clientName), ("enabled", .bool c.enabled),
    ("oidc_enabled", .bool c.oidcEnabled), ("pkce_enabled", .bool c.pkceEnabled),
    ("redirect_uris", c.redirectUris.toJson),
    ("max_refresh_token_count", .integer c.maxRefreshTokenCount),
    ("end_user_token_ttl_seconds", .ofOption .integer c.endUserTokenTtlSeconds),
    ("refresh_token_ttl_seconds", .ofOption .integer c.refreshTokenTtlSeconds),
    ("created_at", c.createdAt.toJson), ("updated_at", c.updatedAt.toJson)]

/-- The names of the fields, in order. -/
def fieldNames : List String :=
  ["client_id", "client_secret", "client_type", "tenant_id", "client_name", "enabled",
    "oidc_enabled", "pkce_enabled", "redirect_uris", "max_refresh_token_count",
    "end_user_token_ttl_seconds", "refresh_token_ttl_seconds", "created_at", "updated_at"]

/-- Reads a client. -/
def ofJson? (j : Json) : Option Client := do
  let r ← Json.Record.ofJson? fieldNames j
  return {
    clientId := ← r.required "client_id" Json.text?
    clientSecret := ← r.required "client_secret" Json.text?
    clientType := ← r.required "client_type" (Json.variant? ClientType.names)
    tenantId := ← r.required "tenant_id" Json.text?
    clientName := ← r.optional "client_name" Json.text?
    enabled := ← r.required "enabled" Json.bool?
    oidcEnabled := ← r.required "oidc_enabled" Json.bool?
    pkceEnabled := ← r.required "pkce_enabled" Json.bool?
    redirectUris := ← r.required "redirect_uris" TextSet.ofJson?
    maxRefreshTokenCount := ← r.required "max_refresh_token_count" (Json.natural? UInt32.size)
    endUserTokenTtlSeconds := ← r.optional "end_user_token_ttl_seconds" Json.int64?
    refreshTokenTtlSeconds := ← r.optional "refresh_token_ttl_seconds" Json.int64?
    createdAt := ← r.required "created_at" Instant.ofJson?
    updatedAt := ← r.required "updated_at" Instant.ofJson? }

end Client

namespace ClientUpdate

/-- The update that changes nothing. -/
def nothing : ClientUpdate :=
  ⟨none, none, none, none, none, none, none, none⟩

/-- The JSON form of an update. -/
def toJson (u : ClientUpdate) : Json :=
  .object [("client_name", .ofText? u.clientName), ("enabled", .ofOption .bool u.enabled),
    ("oidc_enabled", .ofOption .bool u.oidcEnabled), ("pkce_enabled", .ofOption .bool u.pkceEnabled),
    ("redirect_uris", .ofOption TextSet.toJson u.redirectUris),
    ("max_refresh_token_count", .ofOption (fun n => .integer (n : Nat)) u.maxRefreshTokenCount),
    ("end_user_token_ttl_seconds", .ofOption .integer u.endUserTokenTtlSeconds),
    ("refresh_token_ttl_seconds", .ofOption .integer u.refreshTokenTtlSeconds)]

/-- The names of the fields, in order. -/
def fieldNames : List String :=
  ["client_name", "enabled", "oidc_enabled", "pkce_enabled", "redirect_uris",
    "max_refresh_token_count", "end_user_token_ttl_seconds", "refresh_token_ttl_seconds"]

/-- Reads an update. -/
def ofJson? (j : Json) : Option ClientUpdate := do
  let r ← Json.Record.ofJson? fieldNames j
  return {
    clientName := ← r.optional "client_name" Json.text?
    enabled := ← r.optional "enabled" Json.bool?
    oidcEnabled := ← r.optional "oidc_enabled" Json.bool?
    pkceEnabled := ← r.optional "pkce_enabled" Json.bool?
    redirectUris := ← r.optional "redirect_uris" TextSet.ofJson?
    maxRefreshTokenCount := ← r.optional "max_refresh_token_count" (Json.natural? UInt32.size)
    endUserTokenTtlSeconds := ← r.optional "end_user_token_ttl_seconds" Json.int64?
    refreshTokenTtlSeconds := ← r.optional "refresh_token_ttl_seconds" Json.int64? }

end ClientUpdate

end OpenIdProvider
