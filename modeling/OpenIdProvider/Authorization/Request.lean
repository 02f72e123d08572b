import OpenIdProvider.Json.Record
import OpenIdProvider.Text.Blank

/-!
# Requests

What clients send to the authorization, token and revocation endpoints. Every
parameter may be missing here, so that a missing one is answered with an error of
the protocol.
-/

namespace OpenIdProvider

/-- A request for the login of a user. -/
structure AuthorizationRequest where
  clientId : Option String
  redirectUri : Option String
  scope : Option String
  state : Option String
  responseType : Option String
  responseMode : Option String
  codeChallenge : Option String
  codeChallengeMethod : Option String
  deriving DecidableEq

namespace AuthorizationRequest

/-- A request for a code. -/
def code (clientId redirectUri scope : String) : AuthorizationRequest :=
  ⟨clientId, redirectUri, scope, none, "code", none, none, none⟩

/-- The request with a code challenge and its method. -/
def withPkce (r : AuthorizationRequest) (challenge method : Option String) :
    AuthorizationRequest :=
  { r with codeChallenge := challenge, codeChallengeMethod := method }

/-- The request with a state to give back. -/
def withState (r : AuthorizationRequest) (state : String) : AuthorizationRequest :=
  { r with state := some state }

/-- The code challenge, unless it is empty. -/
def challenge? (r : AuthorizationRequest) : Option String :=
  r.codeChallenge.filter (· ≠ "")

/-- The method of the code challenge, unless it is empty. -/
def challengeMethod? (r : AuthorizationRequest) : Option String :=
  r.codeChallengeMethod.filter (· ≠ "")

/-- The scope string, unless it is blank. -/
def scope? (r : AuthorizationRequest) : Option String :=
  r.scope.filter fun s => Text.trim s ≠ ""

/-- The JSON form of a request, without what is missing. -/
def toJson (r : AuthorizationRequest) : Json :=
  .object (Json.memberIf "client_id" .string r.clientId
    ++ Json.memberIf "redirect_uri" .string r.redirectUri ++ Json.memberIf "scope" .string r.scope
    ++ Json.memberIf "state" .string r.state
    ++ Json.memberIf "response_type" .string r.responseType
    ++ Json.memberIf "response_mode" .string r.responseMode
    ++ Json.memberIf "code_challenge" .string r.codeChallenge
    ++ Json.memberIf "code_challenge_method" .string r.codeChallengeMethod)

/-- The names of the parameters, in order. -/
def names : List String :=
  ["client_id", "redirect_uri", "scope", "state", "response_type", "response_mode",
    "code_challenge", "code_challenge_method"]

/-- Reads the parameters of a request with `get`. -/
def ofFields {m : Type → Type} [Monad m] (get : String → m (Option String)) :
    m AuthorizationRequest := do
  return {
    clientId := ← get "client_id"
    redirectUri := ← get "redirect_uri"
    scope := ← get "scope"
    state := ← get "state"
    responseType := ← get "response_type"
    responseMode := ← get "response_mode"
    codeChallenge := ← get "code_challenge"
    codeChallengeMethod := ← get "code_challenge_method" }

/-- Reads a request. -/
def ofJson? (j : Json) : Option AuthorizationRequest := do
  let r ← Json.Record.ofJson? names j
  ofFields fun name => r.optional name Json.text?

end AuthorizationRequest

/-- A request for tokens. -/
structure TokenRequest where
  grantType : String
  code : Option String
  redirectUri : Option String
  clientId : Option String
  clientSecret : Option String
  clientAssertion : Option String
  clientAssertionType : Option String
  scope : Option String
  refreshToken : Option String
  codeVerifier : Option String
  deriving DecidableEq

namespace TokenRequest

/-- The JSON form of a request, without what is missing. -/
def toJson (r : TokenRequest) : Json :=
  .object (("grant_type", .string r.grantType) :: Json.memberIf "code" .string r.code
    ++ Json.memberIf "redirect_uri" .string r.redirectUri
    ++ Json.memberIf "client_id" .string r.clientId
    ++ Json.memberIf "client_secret" .string r.clientSecret
    ++ Json.memberIf "client_assertion" .string r.clientAssertion
    ++ Json.memberIf "client_assertion_type" .string r.clientAssertionType
    ++ Json.memberIf "scope" .string r.scope
    ++ Json.memberIf "refresh_token" .string r.refreshToken
    ++ Json.memberIf "code_verifier" .string r.codeVerifier)

/-- The names of the parameters, in order. -/
def names : List String :=
  ["grant_type", "code", "redirect_uri", "client_id", "client_secret", "client_assertion",
    "client_assertion_type", "scope", "refresh_token", "code_verifier"]

/-- Reads the parameters of a request, other than the kind of the grant, with
`get`. -/
def ofFields {m : Type → Type} [Monad m] (grantType : String)
    (get : String → m (Option String)) : m TokenRequest := do
  return {
    grantType
    code := ← get "code"
    redirectUri := ← get "redirect_uri"
    clientId := ← get "client_id"
    clientSecret := ← get "client_secret"
    clientAssertion := ← get "client_assertion"
    clientAssertionType := ← get "client_assertion_type"
    scope := ← get "scope"
    refreshToken := ← get "refresh_token"
    codeVerifier := ← get "code_verifier" }

/-- Reads a request. -/
def ofJson? (j : Json) : Option TokenRequest := do
  let r ← Json.Record.ofJson? names j
  ofFields (← r.withDefault "grant_type" Json.text? "") fun name => r.optional name Json.text?

end TokenRequest

/-- A request to revoke a refresh token. -/
structure RevocationRequest where
  token : String
  tokenTypeHint : Option String
  clientId : Option String
  clientSecret : Option String
  clientAssertion : Option String
  clientAssertionType : Option String
  deriving DecidableEq

namespace RevocationRequest

/-- The JSON form of a request, without what is missing. -/
def toJson (r : RevocationRequest) : Json :=
  .object (("token", .string r.token) :: Json.memberIf "token_type_hint" .string r.tokenTypeHint
    ++ Json.memberIf "client_id" .string r.clientId
    ++ Json.memberIf "client_secret" .string r.clientSecret
    ++ Json.memberIf "client_assertion" .string r.clientAssertion
    ++ Json.memberIf "client_assertion_type" .string r.clientAssertionType)

/-- The names of the parameters, in order. -/
def names : List String :=
  ["token", "token_type_hint", "client_id", "client_secret", "client_assertion",
    "client_assertion_type"]

/-- Reads the parameters of a request, other than the token, with `get`. -/
def ofFields {m : Type → Type} [Monad m] (token : String) (get : String → m (Option String)) :
    m RevocationRequest := do
  return {
    token
    tokenTypeHint := ← get "token_type_hint"
    clientId := ← get "client_id"
    clientSecret := ← get "client_secret"
    clientAssertion := ← get "client_assertion"
    clientAssertionType := ← get "client_assertion_type" }

/-- Reads a request. -/
def ofJson? (j : Json) : Option RevocationRequest := do
  let r ← Json.Record.ofJson? names j
  ofFields (← r.withDefault "token" Json.text? "") fun name => r.optional name Json.text?

end RevocationRequest

end OpenIdProvider
