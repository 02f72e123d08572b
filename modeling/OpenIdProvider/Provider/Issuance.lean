import OpenIdProvider.Provider.Verification
import OpenIdProvider.Token.Response

/-!
# Issuance of tokens

Tokens for the three kinds of subjects: end users, service accounts and anonymous
users. Nothing is issued for a tenant that is not active or for a client that is
missing, disabled or in another tenant. A token is signed with the current key,
and a refresh token is stored only after the other tokens are signed.
-/

namespace OpenIdProvider

namespace TokenKey

/-- A token with claims, signed with a key. -/
def sign? (k : TokenKey) (c : TokenClaims) : Option Jws :=
  Jws.create?
    (.object [("typ", .string "JWT"), ("alg", .string "RS256"), ("kid", .string k.keyId)])
    c.toJson (Rsa.sign? k.privateKey)

end TokenKey

namespace ProtocolError

/-- The refusal of a token for an end user. -/
def notPermitted : ProtocolError :=
  .invalidGrant "token issuance not permitted"

/-- The refusal of a request that a client may not make. -/
def notAuthorized : ProtocolError :=
  .unauthorizedClient "client is not authorized for this request"

end ProtocolError

namespace Op

/-- A token with claims, signed with a key. -/
def sign (k : TokenKey) (c : TokenClaims) : Op String := do
  return (← orRefuse (k.sign? c) (.tokenSigning "the key cannot sign")).text

/-- The instant at which something issued now expires. -/
def expiry (ttl : Int) : Op Instant := do
  orRefuse ((Span.ofSeconds? ttl).bind (← provider).now.add?)
    (.serverError ("token lifetime " ++ Decimal.ofInt ttl ++ "s is out of range"))

/-- The tenant of an identifier, or a refusal if it is not active. -/
def activeTenant (tenantId : String) (e : ProtocolError) : Op Tenant := do
  orRefuse ((← provider).store.activeTenant? tenantId) e

/-- The client of an identifier in a tenant, or a refusal if it is not enabled. -/
def enabledClient (tenantId clientId : String) (e : ProtocolError) : Op Client := do
  orRefuse ((← provider).store.enabledClient? tenantId clientId) e

/-- The claims of a token that is issued now and lives `ttl` seconds. -/
def freshClaims (subject tenantId clientId : String) (type : TokenType) (ttl : Int) :
    Op TokenClaims := do
  let expiresAt ← expiry ttl
  let jti ← freshUuid
  let p ← provider
  return .create (p.config.issuer tenantId) subject tenantId clientId jti type p.now expiresAt

/-- The ID token beside an access token with claims, if its scope asks for one. -/
def idToken (k : TokenKey) (c : TokenClaims) : Op (Option String) := do
  if c.hasScope Scope.openid then
    let jti ← freshUuid
    return some (← sign k { c with jti, scope := none })
  else return none

/-- Stores a refresh token beside an access token, if a client may refresh once
more after `refreshCount` times. -/
def refreshToken (client : Client) (tenantId userId scope : String) (refreshCount : Nat) :
    Op (Option String) := do
  if refreshCount < client.maxRefreshTokenCount then
    let token ← freshHandle
    let ttl := client.refreshTokenTtlSeconds.getD (← provider).config.tokens.defaultRefreshTokenTtl
    let expiresAt ← expiry ttl
    createRecord { refreshToken := token, userId, clientId := client.clientId, tenantId, scope
                   refreshCount, expiresAt : RefreshGrant }
    return some token
  else return none

/-- Issues tokens for an end user. -/
def issueEndUser (tenantId clientId userId scope : String) (refreshCount : Nat) :
    Op TokenResponse := do
  let _ ← activeTenant tenantId .notPermitted
  let client ← enabledClient tenantId clientId .notPermitted
  let user ← orRefuse ((← provider).store.enabledUser? tenantId userId) .notPermitted
  let k ← currentKey
  let ttl := client.endUserTokenTtlSeconds.getD (← provider).config.tokens.defaultTokenTtl
  let claims := ((← freshClaims user.userId tenantId clientId .endUser ttl).withUser user).withScope
    scope
  let accessToken ← sign k claims
  let idToken ← idToken k claims
  let refreshToken ← refreshToken client tenantId user.userId scope refreshCount
  return { accessToken, expiresIn := ttl, refreshToken, idToken, scope := claims.scope }

end Op

/-- The scope string of a service account's token: what it asks for, if all of it
is granted, or all that is granted, if it asks for nothing. -/
def serviceScope (granted : List String) (requested : Option String) :
    Except ProtocolError String :=
  match (requested.map Text.trim).filter (· ≠ "") with
  | some scope =>
    match Scope.firstUnknown granted scope with
    | some s => .error (.invalidScope ("scope " ++ s ++ " is not granted to this client"))
    | none => .ok (Text.unwords (Scope.tokens scope))
  | none => .ok (Text.unwords granted)

namespace Op

/-- Issues a token for a service account. -/
def issueService (tenantId clientId : String) (scope : Option String) : Op TokenResponse := do
  let _ ← activeTenant tenantId .notAuthorized
  let client ← enabledClient tenantId clientId .notAuthorized
  if !client.isServiceAccount then refuse .notAuthorized
  let scope ← ofExcept (serviceScope ((← provider).store.grantedScopes client) scope)
  let k ← currentKey
  let ttl := (← provider).config.tokens.defaultTokenTtl
  let claims := (← freshClaims clientId tenantId clientId .serviceAccount ttl).withScope scope
  return .bearer (← sign k claims) ttl claims.scope

/-- The claims of a service account's token that permits to create anonymous users. -/
def anonymousCaller (tenantId token : String) : Op TokenClaims := do
  let caller ← tryCatch (verifyToken tenantId token) fun
    | .refused e => refuse (if e.isServerError then e else .notAuthorized)
    | .outOfRange => throw .outOfRange
  if caller.tokenType = .serviceAccount && caller.hasScope Scope.createAnonymousUser then
    return caller
  else refuse .notAuthorized

/-- Issues a token for a new anonymous user, at the request of a service account
that has a token for it. -/
def issueAnonymous (tenantId clientId callerToken : String) : Op TokenResponse := do
  let tenant ← activeTenant tenantId .notAuthorized
  if !tenant.allowAnonymousUsers then refuse .notAuthorized
  let caller ← anonymousCaller tenantId callerToken
  let _ ← enabledClient tenantId clientId .notAuthorized
  let k ← currentKey
  let ttl := (← provider).config.tokens.defaultTokenTtl
  let subject ← freshUuid
  let claims ← freshClaims subject tenantId clientId .anonymousUser ttl
  let accessToken ← sign k claims
  emit { eventType := .anonymousToken, tenantId, clientId, userId := claims.subject
         details := [("caller", caller.clientId)] }
  return .bearer accessToken ttl none

end Op

end OpenIdProvider
