import OpenIdProvider.Time.Timestamp

/-!
# Records that expire

The four kinds of records with a short life: a login that has begun, an
authorization code, a refresh grant, and the use of a client assertion. Each has
a key and an instant from which on it does not count any more.
-/

namespace OpenIdProvider

/-- A kind of record with a key and an expiry. -/
class Expiring (α : Type) where
  /-- The name of the kind. -/
  kind : String
  /-- The key of a record. -/
  key : α → String
  /-- The instant from which on a record does not count. -/
  expiry : α → Instant

/-- Whether a record has expired. -/
def Expiring.expired {α : Type} [Expiring α] (now : Instant) (r : α) : Bool :=
  !now.before (Expiring.expiry r)

/-- How an authorization response is sent to the client. -/
inductive ResponseMode where
  | query
  | fragment
  deriving DecidableEq

namespace ResponseMode

/-- The modes with their names. -/
def names : List (String × ResponseMode) :=
  [("query", query), ("fragment", fragment)]

/-- The name of a mode. -/
def name : ResponseMode → String
  | query => "query"
  | fragment => "fragment"

/-- The mode that a request asks for; the query unless it names the fragment. -/
def ofParameter (p : Option String) : ResponseMode :=
  if p = some "fragment" then fragment else query

end ResponseMode

/-- A login that has begun: an accepted authorization request and the token with
which the user's login completes it. -/
structure PendingLogin where
  token : String
  clientId : String
  tenantId : String
  redirectUri : String
  scope : String
  responseType : String
  responseMode : ResponseMode
  codeChallenge : Option String
  codeChallengeMethod : Option String
  state : Option String
  createdAt : Instant
  expiresAt : Instant
  deriving DecidableEq

/-- An authorization code and what it stands for. -/
structure AuthorizationCode where
  code : String
  userId : String
  clientId : String
  tenantId : String
  redirectUri : String
  scope : String
  codeChallenge : Option String
  codeChallengeMethod : Option String
  expiresAt : Instant
  deriving DecidableEq

/-- A refresh token and the grant that it renews. -/
structure RefreshGrant where
  refreshToken : String
  userId : String
  clientId : String
  tenantId : String
  scope : String
  /-- How often the grant was refreshed before. -/
  refreshCount : Nat
  expiresAt : Instant
  deriving DecidableEq

/-- The use of a client assertion, kept so that it is not used again. -/
structure AssertionUse where
  jti : String
  clientId : String
  tenantId : String
  expiresAtSeconds : Int
  deriving DecidableEq

/-! ## Expiry -/

instance : Expiring PendingLogin where
  kind := "PreAuthenticationState"
  key := PendingLogin.token
  expiry := PendingLogin.expiresAt

instance : Expiring AuthorizationCode where
  kind := "AuthorizationState"
  key := AuthorizationCode.code
  expiry := AuthorizationCode.expiresAt

instance : Expiring RefreshGrant where
  kind := "RefreshData"
  key := RefreshGrant.refreshToken
  expiry := RefreshGrant.expiresAt

/-- The expiry of the use of an assertion; the last instant, if its second is out
of range. -/
def AssertionUse.expiry (u : AssertionUse) : Instant :=
  (Instant.ofSeconds? u.expiresAtSeconds).getD .last

instance : Expiring AssertionUse where
  kind := "ClientAuthHistory"
  key := AssertionUse.jti
  expiry := AssertionUse.expiry

/-! ## JSON -/

namespace PendingLogin

/-- The JSON form of a login that has begun. -/
def toJson (p : PendingLogin) : Json :=
  .object [("token", .string p.token), ("client_id", .string p.clientId),
    ("tenant_id", .string p.tenantId), ("redirect_uri", .string p.redirectUri),
    ("scope", .string p.scope), ("response_type", .string p.responseType),
    ("response_mode", .string p.responseMode.name), ("code_challenge", .ofText? p.codeChallenge),
    ("code_challenge_method", .ofText? p.codeChallengeMethod), ("state", .ofText? p.state),
    ("created_at", p.createdAt.toJson), ("expires_at", p.expiresAt.toJson)]

/-- The names of the fields, in order. -/
def fieldNames : List String :=
  ["token", "client_id", "tenant_id", "redirect_uri", "scope", "response_type", "response_mode",
    "code_challenge", "code_challenge_method", "state", "created_at", "expires_at"]

/-- Reads a login that has begun. -/
def ofJson? (j : Json) : Option PendingLogin := do
  let r ← Json.Record.ofJson? fieldNames j
  return {
    token := ← r.required "token" Json.text?
    clientId := ← r.required "client_id" Json.text?
    tenantId := ← r.required "tenant_id" Json.text?
    redirectUri := ← r.required "redirect_uri" Json.text?
    scope := ← r.required "scope" Json.text?
    responseType := ← r.required "response_type" Json.text?
    responseMode := ← r.required "response_mode" (Json.variant? ResponseMode.names)
    codeChallenge := ← r.optional "code_challenge" Json.text?
    codeChallengeMethod := ← r.optional "code_challenge_method" Json.text?
    state := ← r.optional "state" Json.text?
    createdAt := ← r.required "created_at" Instant.ofJson?
    expiresAt := ← r.required "expires_at" Instant.ofJson? }

end PendingLogin

namespace AuthorizationCode

/-- The JSON form of an authorization code. -/
def toJson (c : AuthorizationCode) : Json :=
  .object [("code", .string c.code), ("user_id", .string c.userId),
    ("client_id", .string c.clientId), ("tenant_id", .string c.tenantId),
    ("redirect_uri", .string c.redirectUri), ("scope", .string c.scope),
    ("code_challenge", .ofText? c.codeChallenge),
    ("code_challenge_method", .ofText? c.codeChallengeMethod),
    ("expires_at", c.expiresAt.toJson)]

/-- The names of the fields, in order. -/
def fieldNames : List String :=
  ["code", "user_id", "client_id", "tenant_id", "redirect_uri", "scope", "code_challenge",
    "code_challenge_method", "expires_at"]

/-- Reads an authorization code. -/
def ofJson? (j : Json) : Option AuthorizationCode := do
  let r ← Json.Record.ofJson? fieldNames j
  return {
    code := ← r.required "code" Json.text?
    userId := ← r.required "user_id" Json.text?
    clientId := ← r.required "client_id" Json.text?
    tenantId := ← r.required "tenant_id" Json.text?
    redirectUri := ← r.required "redirect_uri" Json.text?
    scope := ← r.required "scope" Json.text?
    codeChallenge := ← r.optional "code_challenge" Json.text?
    codeChallengeMethod := ← r.optional "code_challenge_method" Json.text?
    expiresAt := ← r.required "expires_at" Instant.ofJson? }

end AuthorizationCode

namespace RefreshGrant

/-- The JSON form of a refresh grant. -/
def toJson (g : RefreshGrant) : Json :=
  .object [("refresh_token", .string g.refreshToken), ("user_id", .string g.userId),
    ("client_id", .string g.clientId), ("tenant_id", .string g.tenantId),
    ("scope", .string g.scope), ("refresh_count", .integer g.refreshCount),
    ("expires_at", g.expiresAt.toJson)]

/-- The names of the fields, in order. -/
def fieldNames : List String :=
  ["refresh_token", "user_id", "client_id", "tenant_id", "scope", "refresh_count", "expires_at"]

/-- Reads a refresh grant. -/
def ofJson? (j : Json) : Option RefreshGrant := do
  let r ← Json.Record.ofJson? fieldNames j
  return {
    refreshToken := ← r.required "refresh_token" Json.text?
    userId := ← r.required "user_id" Json.text?
    clientId := ← r.required "client_id" Json.text?
    tenantId := ← r.required "tenant_id" Json.text?
    scope := ← r.required "scope" Json.text?
    refreshCount := ← r.required "refresh_count" (Json.natural? UInt32.size)
    expiresAt := ← r.required "expires_at" Instant.ofJson? }

end RefreshGrant

namespace AssertionUse

/-- The JSON form of the use of an assertion. -/
def toJson (u : AssertionUse) : Json :=
  .object [("jti", .string u.jti), ("client_id", .string u.clientId),
    ("tenant_id", .string u.tenantId), ("expires_at_seconds", .integer u.expiresAtSeconds)]

/-- Reads the use of an assertion. -/
def ofJson? (j : Json) : Option AssertionUse := do
  let r ← Json.Record.ofJson? ["jti", "client_id", "tenant_id", "expires_at_seconds"] j
  return {
    jti := ← r.required "jti" Json.text?
    clientId := ← r.required "client_id" Json.text?
    tenantId := ← r.required "tenant_id" Json.text?
    expiresAtSeconds := ← r.required "expires_at_seconds" Json.int64? }

end AssertionUse

end OpenIdProvider
