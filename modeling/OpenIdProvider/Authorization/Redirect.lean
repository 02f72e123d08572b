import OpenIdProvider.Authorization.Request
import OpenIdProvider.Error
import OpenIdProvider.Record.Basic
import OpenIdProvider.Url.Parser

/-!
# Redirects

Where the user's browser is sent: to the login page with a login that has begun or
with an error, and back to the client with a code. Parameters are added to the
query of the address; a client that asks for it gets them as the fragment.
-/

namespace OpenIdProvider

/-- Why an authorization request is not accepted. -/
inductive AuthorizationError where
  | missingScope
  | invalidScope
  | unsupportedResponseType
  | invalidTenant
  | invalidClient
  | clientNotEnabledForSso
  | clientNotEnabledForOidc
  | invalidRedirectUri
  | pkceNotEnabledForClient
  | invalidCodeChallengeMethod
  | codeChallengeParametersMissing
  deriving DecidableEq, Repr

namespace AuthorizationError

/-- All errors. -/
def all : List AuthorizationError :=
  [missingScope, invalidScope, unsupportedResponseType, invalidTenant, invalidClient,
    clientNotEnabledForSso, clientNotEnabledForOidc, invalidRedirectUri, pkceNotEnabledForClient,
    invalidCodeChallengeMethod, codeChallengeParametersMissing]

/-- The code of an error. -/
def code : AuthorizationError → String
  | missingScope => "ERROR_MISSING_SCOPE"
  | invalidScope => "ERROR_INVALID_SCOPE"
  | unsupportedResponseType => "ERROR_UNSUPPORTED_RESPONSE_TYPE"
  | invalidTenant => "ERROR_INVALID_TENANT"
  | invalidClient => "ERROR_INVALID_CLIENT"
  | clientNotEnabledForSso => "ERROR_CLIENT_NOT_ENABLED_FOR_SSO"
  | clientNotEnabledForOidc => "ERROR_CLIENT_NOT_ENABLED_FOR_OIDC"
  | invalidRedirectUri => "ERROR_INVALID_REDIRECT_URI"
  | pkceNotEnabledForClient => "ERROR_PKCE_NOT_ENABLED_FOR_CLIENT"
  | invalidCodeChallengeMethod => "ERROR_INVALID_CODE_CHALLENGE_METHOD"
  | codeChallengeParametersMissing => "ERROR_INVALID_CODE_CHALLENGE_PARAMETERS_MISSING_ONE_OR_MORE"

/-- The error of the OAuth protocol that stands for an error. -/
def oauthError : AuthorizationError → String
  | missingScope | invalidScope => "invalid_scope"
  | unsupportedResponseType => "unsupported_response_type"
  | clientNotEnabledForSso | clientNotEnabledForOidc | pkceNotEnabledForClient =>
    "unauthorized_client"
  | invalidTenant | invalidClient | invalidRedirectUri | invalidCodeChallengeMethod
  | codeChallengeParametersMissing => "invalid_request"

/-- An error in words. -/
def description : AuthorizationError → String
  | missingScope => "The scope parameter is required"
  | invalidScope => "One or more requested scopes are not allowed"
  | unsupportedResponseType => "Only the code response type is supported"
  | invalidTenant => "The tenant is not valid"
  | invalidClient => "The client is not valid"
  | clientNotEnabledForSso => "The client is not enabled for single sign-on"
  | clientNotEnabledForOidc => "The client is not enabled for OpenID Connect"
  | invalidRedirectUri => "The redirect URI is not registered for this client"
  | pkceNotEnabledForClient => "PKCE is not enabled for this client"
  | invalidCodeChallengeMethod => "The code challenge method must be S256"
  | codeChallengeParametersMissing =>
    "code_challenge and code_challenge_method must be sent together"

end AuthorizationError

namespace Redirect

/-- The URL of an address that has to be one. -/
def parseUrl (address : String) : Except ProtocolError Url :=
  match Url.parse address with
  | .ok u => .ok u
  | .error e => .error (.serverError ("invalid URL " ++ address ++ ": " ++ e.message))

/-- A parameter that is there, with its name. -/
def pairIf (name : String) (value : Option String) : List Form.Pair :=
  (value.map fun v => (name, v)).toList

/-- The parameters that tell the login page of an error. -/
def errorPairs (tenantId : String) (r : AuthorizationRequest) (e : AuthorizationError) :
    List Form.Pair :=
  [("error", e.oauthError), ("error_code", e.code), ("error_description", e.description),
    ("tenant_id", tenantId)]
    ++ pairIf "client_id" r.clientId ++ pairIf "redirect_uri" r.redirectUri
    ++ pairIf "state" r.state ++ pairIf "scope" r.scope ++ pairIf "response_type" r.responseType
    ++ pairIf "response_mode" r.responseMode

/-- The login page with an error. -/
def loginError (loginUrl tenantId : String) (r : AuthorizationRequest) (e : AuthorizationError) :
    Except ProtocolError Url := do
  return (← parseUrl loginUrl).appendPairs (errorPairs tenantId r e)

/-- The login page with a login that has begun. -/
def login (loginUrl tenantId redirectUri token : String) : Except ProtocolError Url := do
  return (← parseUrl loginUrl).appendPairs
    [("preauth_token", token), ("tenant_id", tenantId), ("redirect_uri", redirectUri)]

/-- The parameters with which a client gets a code. -/
def codePairs (code : String) (state : Option String) : List Form.Pair :=
  ("code", code) :: pairIf "state" state

/-- The client's address with a code. -/
def toClient (redirectUri code : String) (state : Option String) (mode : ResponseMode) :
    Except ProtocolError Url := do
  let u ← parseUrl redirectUri
  match mode with
  | .query => return u.appendPairs (codePairs code state)
  | .fragment => return u.withFragmentPairs (codePairs code state)

/-- Whether two addresses on the machine itself are the same but for their ports:
a program there listens on any free port. -/
def sameLoopback (registered requested : Url) : Bool :=
  registered.isLoopback && registered.scheme == requested.scheme
    && registered.host? == requested.host? && registered.path == requested.path
    && registered.query == requested.query

/-- Whether an address is among the registered ones, or is one of them on the
machine itself on another port. -/
def isAllowed (registered : List String) (redirectUri : String) : Bool :=
  registered.contains redirectUri ||
    match Url.parse redirectUri with
    | .error _ => false
    | .ok requested => requested.isLoopback && registered.any fun r =>
        match Url.parse r with
        | .error _ => false
        | .ok registered => sameLoopback registered requested

end Redirect

end OpenIdProvider
