import OpenIdProvider.Provider.Authorization
import OpenIdProvider.Provider.Issuance

/-!
# Grants

What an authenticated client can get at the token endpoint: tokens for a code, for
a refresh token, or for itself; and the revocation of a refresh token. A refresh
token is used up when it is redeemed, except by a failure of the provider itself.
-/

namespace OpenIdProvider

/-- A kind of grant. -/
inductive GrantType where
  | authorizationCode
  | clientCredentials
  | refreshToken
  deriving DecidableEq

namespace GrantType

/-- All kinds. -/
def all : List GrantType :=
  [authorizationCode, clientCredentials, refreshToken]

/-- The name of a kind. -/
def name : GrantType → String
  | authorizationCode => "authorization_code"
  | clientCredentials => "client_credentials"
  | refreshToken => "refresh_token"

/-- What is said of a name that is no kind. -/
def unknownMessage (name : String) : String :=
  "unknown grant type: " ++ name

/-- The kind of a name. -/
def ofName? (name : String) : Option GrantType :=
  all.find? fun g => g.name == name

/-- The event of a grant that was given or refused. -/
def eventType (g : GrantType) (granted : Bool) : EventType :=
  match g with
  | authorizationCode => if granted then .codeToToken else .codeToTokenError
  | refreshToken => if granted then .refreshToken else .refreshTokenError
  | clientCredentials => .clientCredentials

end GrantType

/-- The scope string of a refreshed grant: the old one, or fewer of its scopes if
the request names some. -/
def narrowedScope (g : RefreshGrant) (requested : Option String) : Except ProtocolError String :=
  match (requested.map Text.trim).filter (· ≠ "") with
  | none => .ok g.scope
  | some scope =>
    match Scope.firstUnknown (Scope.tokens g.scope) scope with
    | some s => .error (.invalidScope ("scope " ++ s ++ " exceeds the original grant"))
    | none => .ok (Text.unwords (Scope.tokens scope))

namespace Op

/-- Tokens for a code. -/
def grantForCode (tenantId : String) (client : Client) (r : TokenRequest) : Op TokenResponse := do
  let code ← orRefuse r.code (.invalidRequest "code is required")
  let redirectUri ← orRefuse r.redirectUri (.invalidRequest "redirect_uri is required")
  let c ← redeem tenantId client.clientId code redirectUri r.codeVerifier
  issueEndUser tenantId client.clientId c.userId c.scope 0

/-- The refresh grant of a token, if the client may redeem it. -/
def refreshable? (p : Provider) (tenantId : String) (client : Client) (token : String) :
    Option RefreshGrant :=
  (p.store.refreshGrants.find? p.now token).filter fun g =>
    g.tenantId == tenantId && g.clientId == client.clientId
      && g.refreshCount < client.maxRefreshTokenCount

/-- Puts a refresh grant back after a failure. -/
def restoreGrant (g : RefreshGrant) : Fault → Op TokenResponse
  | .refused e => do
    if e.isServerError then tryCatch (createRecord g) fun _ => pure ()
    refuse e
  | .outOfRange => throw .outOfRange

/-- Tokens for a refresh token. -/
def grantForRefresh (tenantId : String) (client : Client) (r : TokenRequest) :
    Op TokenResponse := do
  let invalid : ProtocolError := .invalidGrant "invalid refresh token"
  let token ← orRefuse r.refreshToken (.invalidRequest "refresh_token is required")
  let g ← orRefuse (refreshable? (← provider) tenantId client token) invalid
  let scope ← ofExcept (narrowedScope g r.scope)
  let _ ← takeRecord RefreshGrant token
  tryCatch (issueEndUser tenantId client.clientId g.userId scope (g.refreshCount + 1))
    (restoreGrant g)

/-- Tokens for what a request offers. -/
def grantFor (g : GrantType) (tenantId : String) (client : Client) (r : TokenRequest) :
    Op TokenResponse :=
  match g with
  | .authorizationCode => grantForCode tenantId client r
  | .refreshToken => grantForRefresh tenantId client r
  | .clientCredentials => issueService tenantId client.clientId r.scope

/-- The event of a grant that was given, or refused with an error. -/
def grantEvent (g : GrantType) (tenantId clientId : String) (error : Option ProtocolError) :
    AuditEvent where
  eventType := g.eventType error.isNone
  error := error.map ProtocolError.code
  tenantId := some tenantId
  clientId := some clientId
  details := [("grant_type", g.name)]

/-- Answers a token request of an authenticated client. -/
def grant (tenantId : String) (client : Client) (r : TokenRequest) : Op TokenResponse := do
  let g ← orRefuse (GrantType.ofName? r.grantType)
    (.unsupportedGrantType (GrantType.unknownMessage r.grantType))
  let response ← tryCatch (grantFor g tenantId client r) fun
    | .refused e => do
      emit (grantEvent g tenantId client.clientId (some e))
      refuse e
    | .outOfRange => throw .outOfRange
  emit (grantEvent g tenantId client.clientId none)
  return response

/-- Revokes a refresh token of an authenticated client, with all refresh tokens of
the same user to the client. An unknown token counts as revoked. -/
def revoke (tenantId : String) (client : Client) (token : String) : Op Unit := do
  let p ← provider
  match p.store.refreshGrants.find? p.now token with
  | none => return
  | some g =>
    if g.tenantId ≠ tenantId || g.clientId ≠ client.clientId then
      emit { eventType := .revokeGrant, error := some "unauthorized_client", tenantId
             clientId := client.clientId }
      refuse (.unauthorizedClient "token was not issued to this client")
    setRecords (p.store.refreshGrants.deleteForGrant g.userId tenantId client.clientId).2
    emit { eventType := .revokeGrant, tenantId, clientId := client.clientId, userId := g.userId }

end Op

end OpenIdProvider
