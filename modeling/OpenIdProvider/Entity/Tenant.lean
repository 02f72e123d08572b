import OpenIdProvider.Time.Timestamp

/-!
# Tenants

A tenant is the top level of isolation: clients, users and scopes belong to one.
It is active when it is enabled and not marked for deletion.
-/

namespace OpenIdProvider

/-- How many requests a tenant may make in a window of time. -/
structure RateLimit where
  requests : Nat
  windowSeconds : Nat
  deriving DecidableEq

/-- A tenant. -/
structure Tenant where
  tenantId : String
  name : String
  enabled : Bool
  allowAnonymousUsers : Bool
  allowUnlimitedRate : Bool
  defaultRateLimit : RateLimit
  markedForDelete : Bool
  createdAt : Instant
  deriving DecidableEq

namespace RateLimit

/-- A hundred requests a minute. -/
def standard : RateLimit := ⟨100, 60⟩

/-- The JSON form of a rate limit. -/
def toJson (r : RateLimit) : Json :=
  .object [("requests", .integer r.requests), ("window_seconds", .integer r.windowSeconds)]

/-- Reads a rate limit. -/
def ofJson? (j : Json) : Option RateLimit := do
  let r ← Json.Record.ofJson? ["requests", "window_seconds"] j
  return {
    requests := ← r.required "requests" (Json.natural? UInt32.size)
    windowSeconds := ← r.required "window_seconds" (Json.natural? UInt32.size) }

end RateLimit

namespace Tenant

/-- An enabled tenant named like its identifier. -/
def create (tenantId : String) (now : Instant) : Tenant :=
  { tenantId, name := tenantId, enabled := true, allowAnonymousUsers := false
    allowUnlimitedRate := false, defaultRateLimit := .standard, markedForDelete := false
    createdAt := now }

/-- Whether requests to a tenant are served. -/
def isActive (t : Tenant) : Bool :=
  t.enabled && !t.markedForDelete

/-- Marks a tenant for deletion, which disables it. -/
def markForDelete (t : Tenant) : Tenant :=
  { t with markedForDelete := true, enabled := false }

theorem isActive_markForDelete (t : Tenant) : t.markForDelete.isActive = false := rfl

/-- The JSON form of a tenant. -/
def toJson (t : Tenant) : Json :=
  .object [("tenant_id", .string t.tenantId), ("name", .string t.name), ("enabled", .bool t.enabled),
    ("allow_anonymous_users", .bool t.allowAnonymousUsers),
    ("allow_unlimited_rate", .bool t.allowUnlimitedRate),
    ("default_rate_limit", t.defaultRateLimit.toJson),
    ("marked_for_delete", .bool t.markedForDelete), ("created_at", t.createdAt.toJson)]

/-- The names of the fields, in order. -/
def fieldNames : List String :=
  ["tenant_id", "name", "enabled", "allow_anonymous_users", "allow_unlimited_rate",
    "default_rate_limit", "marked_for_delete", "created_at"]

/-- Reads a tenant. -/
def ofJson? (j : Json) : Option Tenant := do
  let r ← Json.Record.ofJson? fieldNames j
  return {
    tenantId := ← r.required "tenant_id" Json.text?
    name := ← r.required "name" Json.text?
    enabled := ← r.required "enabled" Json.bool?
    allowAnonymousUsers := ← r.required "allow_anonymous_users" Json.bool?
    allowUnlimitedRate := ← r.required "allow_unlimited_rate" Json.bool?
    defaultRateLimit := ← r.required "default_rate_limit" RateLimit.ofJson?
    markedForDelete := ← r.required "marked_for_delete" Json.bool?
    createdAt := ← r.required "created_at" Instant.ofJson? }

end Tenant

end OpenIdProvider
