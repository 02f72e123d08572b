import OpenIdProvider.Json.Record
import OpenIdProvider.Entity.Client
import OpenIdProvider.Text.Blank

/-!
# Scopes

A scope names something that a token permits. A scope string is a list of scope
names between blanks; `scopeTokens` is its one tokenisation. A client may always
ask for the standard scopes, and some clients also for those granted to them.
-/

namespace OpenIdProvider

/-- A scope that a tenant has defined. -/
structure Scope where
  scopeName : String
  tenantId : String
  description : Option String
  deriving DecidableEq

/-- The grant of a scope to a client. -/
structure ScopeGrant where
  clientId : String
  tenantId : String
  scopeName : String
  deriving DecidableEq

namespace Scope

/-- The JSON form of a scope. -/
def toJson (s : Scope) : Json :=
  .object [("scope_name", .string s.scopeName), ("tenant_id", .string s.tenantId),
    ("description", .ofText? s.description)]

/-- Reads a scope. -/
def ofJson? (j : Json) : Option Scope := do
  let r ← Json.Record.ofJson? ["scope_name", "tenant_id", "description"] j
  return {
    scopeName := ← r.required "scope_name" Json.text?
    tenantId := ← r.required "tenant_id" Json.text?
    description := ← r.optional "description" Json.text? }

/-- The scopes of the standard. -/
def standard : List String :=
  ["openid", "profile", "email", "address", "phone", "offline_access"]

/-- The scope that makes an end user's tokens include an ID token. -/
def openid : String := "openid"

/-- The scope that lets a service account create anonymous users. -/
def createAnonymousUser : String := "anonymous_user.create"

/-- The scope names in a scope string. -/
def tokens (scope : String) : List String :=
  Text.words scope

/-- The first name in a scope string that is not among the allowed ones. -/
def firstUnknown (allowed : List String) (scope : String) : Option String :=
  (tokens scope).find? fun s => !allowed.contains s

/-- The scopes that a client may ask for, given the scopes granted to it. -/
def allowed (c : Client) (granted : List String) : List String :=
  standard ++ if c.usesDelegatedScopes then granted else []

end Scope

namespace ScopeGrant

/-- The JSON form of a grant. -/
def toJson (g : ScopeGrant) : Json :=
  .object [("client_id", .string g.clientId), ("tenant_id", .string g.tenantId),
    ("scope_name", .string g.scopeName)]

/-- Reads a grant. -/
def ofJson? (j : Json) : Option ScopeGrant := do
  let r ← Json.Record.ofJson? ["client_id", "tenant_id", "scope_name"] j
  return {
    clientId := ← r.required "client_id" Json.text?
    tenantId := ← r.required "tenant_id" Json.text?
    scopeName := ← r.required "scope_name" Json.text? }

end ScopeGrant

end OpenIdProvider
