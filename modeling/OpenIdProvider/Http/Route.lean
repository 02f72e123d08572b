import OpenIdProvider.Text.Form

/-!
# Routes

Which endpoint a path leads to. The first segment of an endpoint of a tenant names
the tenant, percent-encoded, and may be empty; the other segments are compared as
they are written.
-/

namespace OpenIdProvider.Http

/-- An endpoint of a tenant. -/
inductive TenantEndpoint where
  | configuration
  | keySet
  | authorize
  | token
  | revoke
  | anonymousToken
  | userInfo
  deriving DecidableEq

/-- Where a path leads to. -/
inductive Route where
  | root
  | health
  | liveness
  /-- An endpoint of the tenant that the segment names. -/
  | tenant (segment : String) (endpoint : TenantEndpoint)
  deriving DecidableEq

namespace TenantEndpoint

/-- The endpoint with a name. -/
def ofName? : String → Option TenantEndpoint
  | "jwks" => some keySet
  | "authorize" => some authorize
  | "token" => some token
  | "revoke" => some revoke
  | "anonymous-token" => some anonymousToken
  | "userinfo" => some userInfo
  | _ => none

/-- The methods of an endpoint. -/
def methods : TenantEndpoint → List String
  | configuration | keySet | authorize => ["GET", "HEAD"]
  | token | revoke | anonymousToken => ["POST"]
  | userInfo => ["GET", "HEAD", "POST"]

end TenantEndpoint

namespace Route

/-- The segments of a path that begins with a slash. -/
def segments (path : String) : List String :=
  ((Form.pieces '/' path.toList).map String.ofList).drop 1

/-- The route of a path. -/
def ofPath? (path : String) : Option Route :=
  match segments path with
  | [""] => some root
  | ["health"] => some health
  | ["health", "live"] => some liveness
  | [segment, ".well-known", "openid-configuration"] => some (tenant segment .configuration)
  | [segment, "oidc", name] => (TenantEndpoint.ofName? name).map (tenant segment)
  | _ => none

/-- The methods of a route. -/
def methods : Route → List String
  | root | health | liveness => ["GET", "HEAD"]
  | tenant _ endpoint => endpoint.methods

/-- The tenant that a segment names, if it spells one. -/
def tenantId? (segment : String) : Option String :=
  Utf8.decode? (Percent.decode segment.toList)

end Route

end OpenIdProvider.Http
