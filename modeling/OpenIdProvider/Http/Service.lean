import OpenIdProvider.Discovery
import OpenIdProvider.Http.Message
import OpenIdProvider.Http.Route
import OpenIdProvider.Http.UserInfo
import OpenIdProvider.Provider.ClientAuthentication
import OpenIdProvider.Provider.Grants

/-!
# The HTTP service

The answers of the provider to HTTP requests. `Service.answer` finds the route,
checks the method and the tenant's name, and lets the endpoint answer. An error of
the protocol becomes a response; a fault of date arithmetic gives none.
-/

namespace OpenIdProvider.Http.Service

/-- The answer to a request that is refused. -/
def errorResponse (e : ProtocolError) : Response :=
  ⟨e.status, [("cache-control", "no-store")], .json e.toJson⟩

/-- The answer with a token. -/
def tokenResponse (r : TokenResponse) : Response :=
  ⟨200, [("cache-control", "no-store"), ("pragma", "no-cache")], .json r.toJson⟩

/-- An answer in which a refusal is a response, too. -/
def answering (op : Op Response) : Op Response :=
  tryCatch op fun
    | .refused e => return errorResponse e
    | .outOfRange => throw .outOfRange

/-! ## Forms -/

/-- What is said of a body that is no form. -/
def notAForm : Response :=
  .plain 415 ("Form requests must have "
    ++ backquoted "Content-Type: application/x-www-form-urlencoded")

/-- Whether the body of a request is said to be a form. -/
def isForm (r : Request) : Bool :=
  (r.header? "content-type").any fun t =>
    "application/x-www-form-urlencoded".toList.isPrefixOf t.toList

/-- The known parameters of a form, or the answer to what is no such form. -/
def formParameters (known : List String) (r : Request) : Except Response (List Form.Pair) :=
  if !isForm r then .error notAForm
  else match parameters known [] (Form.decode r.body) with
    | .ok ps => .ok ps
    | .error name => .error (.plain 422
        ("Failed to deserialize form body: " ++ duplicateMessage name))

/-- The known parameters of a query, or the answer to one that does not fit. -/
def queryParameters (known : List String) (r : Request) : Except Response (List Form.Pair) :=
  match parameters known [] (Form.decode (r.query.getD "")) with
  | .ok ps => .ok ps
  | .error name => .error (.plain 400
      ("Failed to deserialize query string: " ++ duplicateMessage name))

/-- Answers with parameters, if there are such. -/
def withParameters (ps : Except Response (List Form.Pair)) (f : List Form.Pair → Op Response) :
    Op Response :=
  match ps with
  | .ok ps => answering (f ps)
  | .error response => return response

/-! ## Endpoints -/

/-- Answers an authorization request. -/
def authorize (tenantId : String) (r : Request) : Op Response :=
  withParameters (queryParameters AuthorizationRequest.names r) fun ps => do
    let request := Id.run (AuthorizationRequest.ofFields fun name => ps.lookup name)
    let outcome ← Op.authorize tenantId request
    return ⟨302, [("location", outcome.location.text), ("cache-control", "no-store")], .empty⟩

/-- Answers a token request. -/
def token (tenantId : String) (r : Request) : Op Response :=
  withParameters (formParameters TokenRequest.names r) fun ps => do
    let request := Id.run
      (TokenRequest.ofFields ((ps.lookup "grant_type").getD "") fun name => ps.lookup name)
    let credentials ← Op.ofExcept (Credentials.extract (r.header? "authorization") request.clientId
      request.clientSecret request.clientAssertion request.clientAssertionType)
    let client ← Op.authenticate tenantId credentials
    return tokenResponse (← Op.grant tenantId client request)

/-- Answers a revocation request. -/
def revoke (tenantId : String) (r : Request) : Op Response :=
  withParameters (formParameters RevocationRequest.names r) fun ps => do
    let request := Id.run
      (RevocationRequest.ofFields ((ps.lookup "token").getD "") fun name => ps.lookup name)
    let credentials ← Op.ofExcept (Credentials.extract (r.header? "authorization") request.clientId
      request.clientSecret request.clientAssertion request.clientAssertionType)
    let client ← Op.authenticate tenantId credentials
    if request.token = "" then Op.refuse (.invalidRequest "token is required")
    Op.revoke tenantId client request.token
    return .bare 200

/-- Answers a request for an anonymous user's token. -/
def anonymousToken (tenantId : String) (r : Request) : Op Response :=
  withParameters (formParameters ["client_id"] r) fun ps => do
    let caller ← Op.orRefuse r.bearer? (.invalidRequest "Bearer token required")
    let clientId := (ps.lookup "client_id").getD ""
    if clientId = "" then Op.refuse (.invalidRequest "client_id is required")
    return tokenResponse (← Op.issueAnonymous tenantId clientId caller)

/-- Refuses a request to a tenant that is not active. -/
def requireTenant (tenantId : String) : Op Unit := do
  let _ ← Op.activeTenant tenantId (.invalidRequest "unknown tenant")

/-- Answers with the discovery document of a tenant. -/
def configuration (tenantId : String) : Op Response := do
  requireTenant tenantId
  return .document ((← Op.provider).config.endpoints tenantId).toJson

/-- Answers with the published keys. -/
def keySet (tenantId : String) : Op Response := do
  requireTenant tenantId
  return .document (← Op.publishedKeys).toJson

/-- The answer with an error of the userinfo endpoint. -/
def userInfoError (e : UserInfoError) : Op Response := do
  let traceId ← Op.freshUuid
  return ⟨400, [], .json (e.toJson (← Op.provider).now traceId)⟩

/-- Answers with what a token says of its subject. -/
def userInfo (tenantId : String) (r : Request) : Op Response := do
  let some token := r.bearer? | userInfoError .missingToken
  tryCatch (do return .document (← Op.verifyToken tenantId token).userInfo) fun
    | .refused e => if e.isServerError then return errorResponse e else userInfoError .invalidToken
    | .outOfRange => throw .outOfRange

/-- Answers at an endpoint of a tenant. -/
def atTenant (tenantId : String) (r : Request) : TenantEndpoint → Op Response
  | .configuration => answering (configuration tenantId)
  | .keySet => answering (keySet tenantId)
  | .authorize => authorize tenantId r
  | .token => token tenantId r
  | .revoke => revoke tenantId r
  | .anonymousToken => anonymousToken tenantId r
  | .userInfo => userInfo tenantId r

/-! ## Routes -/

/-- The version of the service. -/
def version : String := "0.1.0"

/-- Answers at a route. -/
def atRoute (r : Request) : Route → Op Response
  | .root =>
    pure (.document (.object [("name", .string "idp-server"), ("version", .string version)]))
  | .health =>
    pure (.document (.object [("status", .string "healthy"), ("version", .string version)]))
  | .liveness => pure (.bare 200)
  | .tenant segment endpoint =>
    match Route.tenantId? segment with
    | some tenantId => atTenant tenantId r endpoint
    | none => pure (.plain 400 ("Invalid URL: Invalid UTF-8 in " ++ backquoted "tenant_id"))

/-- Answers a request. The answer to `HEAD` is that to `GET` without the body. -/
def answer (r : Request) : Op Response := do
  match Route.ofPath? r.path with
  | none => return .bare 404
  | some route =>
    if route.methods.contains r.method then atRoute r route
    else return ⟨405, [("allow", ",".intercalate route.methods)], .empty⟩

/-- The text of the body as it is sent: none in an answer to `HEAD`. -/
def sentBody (r : Request) (response : Response) : String :=
  if r.method = "HEAD" then "" else response.bodyText

end OpenIdProvider.Http.Service
