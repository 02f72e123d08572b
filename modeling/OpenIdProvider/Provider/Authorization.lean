import OpenIdProvider.Authorization.Pkce
import OpenIdProvider.Authorization.Redirect
import OpenIdProvider.Provider.Basic

/-!
# Authorization

The three steps by which a client gets a code. `authorize` checks a request and
sends the user to the login page, `completeLogin` turns a login into a code, and
`redeem` takes the code back. The handle of a login and a code are used up by the
first attempt, whether or not it succeeds.
-/

namespace OpenIdProvider

/-- What an accepted request asks for. -/
structure AcceptedRequest where
  client : Client
  redirectUri : String
  /-- The scopes, with single spaces between them. -/
  scope : String

namespace AuthorizationRequest

/-- Checks the code challenge of a request. -/
def checkPkce (r : AuthorizationRequest) (c : Client) : Except AuthorizationError Unit :=
  match r.challenge?, r.challengeMethod? with
  | none, none => .ok ()
  | challenge, method =>
    if !c.pkceEnabled then .error .pkceNotEnabledForClient
    else if !method.all (· == Pkce.s256) then .error .invalidCodeChallengeMethod
    else if challenge.isSome && method.isSome then .ok ()
    else .error .codeChallengeParametersMissing

/-- The client of a request, if it is an enabled one of the tenant. -/
def client? (r : AuthorizationRequest) (s : Store) (tenantId : String) : Option Client :=
  (r.clientId.filter (· ≠ "")).bind (s.enabledClient? tenantId)

/-- The address to which a request wants the code sent, if it is a registered
one. -/
def allowedRedirectUri? (r : AuthorizationRequest) (c : Client) : Option String :=
  r.redirectUri.filter (Redirect.isAllowed c.redirectUris.items)

/-- Checks a request to a tenant; the first error counts. -/
def check (r : AuthorizationRequest) (s : Store) (tenantId : String) :
    Except AuthorizationError AcceptedRequest := do
  let some scope := r.scope? | throw .missingScope
  if r.responseType ≠ some "code" then throw .unsupportedResponseType
  if !(s.tenant? tenantId).any Tenant.enabled then throw .invalidTenant
  let some client := r.client? s tenantId | throw .invalidClient
  if client.isServiceAccount then throw .clientNotEnabledForSso
  if !client.oidcEnabled then throw .clientNotEnabledForOidc
  let some redirectUri := r.allowedRedirectUri? client | throw .invalidRedirectUri
  r.checkPkce client
  let allowed := Scope.allowed client (s.grantedScopes client)
  if (Scope.firstUnknown allowed scope).isSome then throw .invalidScope
  return { client, redirectUri, scope := Text.unwords (Scope.tokens scope) }

end AuthorizationRequest

/-- Where the user is sent after an authorization request. -/
inductive AuthorizationOutcome where
  | login (pending : PendingLogin) (location : Url)
  | error (e : AuthorizationError) (location : Url)

namespace AuthorizationOutcome

/-- The address to which the user is sent. -/
def location : AuthorizationOutcome → Url
  | login _ location => location
  | error _ location => location

end AuthorizationOutcome

namespace Op

/-- Begins the login for an accepted request. -/
def beginLogin (tenantId : String) (r : AuthorizationRequest) (a : AcceptedRequest) :
    Op AuthorizationOutcome := do
  let p ← provider
  let token ← freshHandle
  let expiresAt ← later p.config.tokens.pendingLoginTtl
  let pending : PendingLogin :=
    { token, clientId := a.client.clientId, tenantId, redirectUri := a.redirectUri, scope := a.scope
      responseType := "code", responseMode := .ofParameter r.responseMode
      codeChallenge := r.challenge?, codeChallengeMethod := r.challengeMethod?, state := r.state
      createdAt := p.now, expiresAt }
  let location ← ofExcept (Redirect.login p.config.loginUrl tenantId a.redirectUri token)
  createRecord pending
  emit { eventType := .authorizationRequest, tenantId, clientId := a.client.clientId }
  return .login pending location

/-- Sends the user to the login page with an error. -/
def rejectRequest (tenantId : String) (r : AuthorizationRequest) (e : AuthorizationError) :
    Op AuthorizationOutcome := do
  emit { eventType := .authorizationRequestError, error := e.code, tenantId, clientId := r.clientId }
  let location ← ofExcept (Redirect.loginError (← provider).config.loginUrl tenantId r e)
  return .error e location

/-- Answers an authorization request to a tenant. -/
def authorize (tenantId : String) (r : AuthorizationRequest) : Op AuthorizationOutcome := do
  match r.check (← provider).store tenantId with
  | .ok a => beginLogin tenantId r a
  | .error e => rejectRequest tenantId r e

/-- Turns a login that has begun into a code for the user who logged in, and gives
the address to which the user is sent with it. -/
def completeLogin (token userId : String) : Op Url := do
  let some pending ← takeRecord PendingLogin token
    | refuse (.invalidGrant "login session expired")
  let p ← provider
  let tenantId := pending.tenantId
  if (p.store.enabledUser? tenantId userId).isNone then
    refuse (.invalidGrant "login not permitted")
  let code ← freshHandle
  let expiresAt ← later p.config.tokens.authorizationCodeTtl
  let location ← ofExcept
    (Redirect.toClient pending.redirectUri code pending.state pending.responseMode)
  createRecord { code, userId, clientId := pending.clientId, tenantId
                 redirectUri := pending.redirectUri, scope := pending.scope
                 codeChallenge := pending.codeChallenge
                 codeChallengeMethod := pending.codeChallengeMethod
                 expiresAt : AuthorizationCode }
  emit { eventType := .loginComplete, tenantId, clientId := pending.clientId, userId }
  return location

/-- Takes a code from the client to which it was issued. -/
def redeem (tenantId clientId code : String) (redirectUri verifier : Option String) :
    Op AuthorizationCode := do
  let invalid : ProtocolError := .invalidGrant "invalid authorization code"
  let some c ← takeRecord AuthorizationCode code | refuse invalid
  if c.tenantId ≠ tenantId || c.clientId ≠ clientId then refuse invalid
  if redirectUri ≠ some c.redirectUri then refuse invalid
  ofExcept (Pkce.checkRedemption c.codeChallenge c.codeChallengeMethod verifier)
  return c

end Op

end OpenIdProvider
