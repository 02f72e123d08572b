import OpenIdProvider.ClientAuth.Credentials
import OpenIdProvider.Crypto.Compare
import OpenIdProvider.Provider.Basic
import OpenIdProvider.Token.Claims
import OpenIdProvider.Token.Jws

/-!
# Authentication of clients

A client authenticates with its secret, or with an assertion that it signs with
its secret. The identifier of an assertion is kept until the assertion expires,
and before its signature is checked, so that nobody uses it a second time.
-/

namespace OpenIdProvider

namespace AssertionClaims

/-- The claims of an assertion, whoever signed it. -/
def peek? (assertion : String) : Option AssertionClaims := do
  let t ← Jws.ofText? assertion
  match t.readHeader, t.readPayload ofJson? with
  | .ok _, .ok c => some c
  | _, _ => none

/-- The second at which claims expire, if it is an instant after `now`. -/
def expiryAfter? (c : AssertionClaims) (now : Instant) : Option Int := do
  let t ← Instant.ofSeconds? (← c.expiresAt)
  if now.before t then some t.second else none

/-- Whether claims are made by a client of itself, to a token endpoint alone. -/
def isFrom (c : AssertionClaims) (clientId tokenEndpoint : String) : Bool :=
  c.subject == some clientId && c.issuer == c.subject
    && c.audience.any fun a => a.isExactly tokenEndpoint

/-- Whether an assertion is signed with a secret, and is JSON all over. -/
def isSignedWith (assertion clientSecret : String) : Bool :=
  match Jws.ofText? assertion with
  | none => false
  | some t =>
    let key := Utf8.ofString clientSecret
    let accepts (message signature : Bytes) : Bool := Secret.equal (Hmac.code key message) signature
    match t.readHeader, t.checkSignature accepts, Jws.jsonOf t.payload with
    | .ok h, .ok _, .ok j => h.algorithm == .hs256 && j.isReadable && registeredClaimsFit j
    | _, _, _ => false

end AssertionClaims

namespace Store

/-- The client with a secret. -/
def acceptsSecret (s : Store) (clientId clientSecret : String) : Bool :=
  (s.client? clientId).any fun c => Secret.same c.clientSecret clientSecret

/-- The client of an identifier, if it and its tenant may be served. -/
def boundClient? (s : Store) (tenantId clientId : String) : Option Client := do
  let c ← s.enabledClient? tenantId clientId
  let _ ← s.activeTenant? tenantId
  return c

end Store

namespace Provider

/-- The use of an assertion and the client that makes it, if the assertion's claims
and the client and its tenant pass every check. Neither earlier uses nor the
signature are looked at. -/
def assertionUse? (p : Provider) (assertion clientId tenantId : String) :
    Option (Client × AssertionUse) := do
  let claims ← AssertionClaims.peek? assertion
  let second ← claims.expiryAfter? p.now
  let client ← p.store.boundClient? tenantId clientId
  let jti ← claims.jti
  if claims.isFrom clientId (p.config.tokenEndpoint tenantId) && jti ≠ "" then
    return (client, ⟨jti, clientId, tenantId, second⟩)
  else none

end Provider

namespace Op

/-- Keeps the use of an assertion, and says whether it is the first one. -/
def useAssertion (u : AssertionUse) : Op Bool := do
  let p ← provider
  match p.store.assertionUses.create p.now u with
  | .ok t => setRecords t; return true
  | .error _ => return false

/-- Whether a client's assertion is accepted. The use of an assertion that passes
every check but that of its signature is kept. -/
def acceptsAssertion (assertion clientId tenantId : String) : Op Bool := do
  match (← provider).assertionUse? assertion clientId tenantId with
  | none => return false
  | some (client, u) =>
    if ← useAssertion u then return AssertionClaims.isSignedWith assertion client.clientSecret
    else return false

/-- The event of an authentication. -/
def loginEvent (tenantId clientId : String) (method : ClientAuthMethod) (accepted : Bool) :
    AuditEvent where
  eventType := if accepted then .clientLogin else .clientLoginError
  error := if accepted then none else some "unauthorized_client"
  tenantId := some tenantId
  clientId := some clientId
  details := [("method", method.name)]

/-- The client that credentials name, and whether they are accepted. -/
def checkCredentials (tenantId : String) : Credentials → Op (String × Bool)
  | .secret clientId clientSecret _ => do
    return (clientId, (← provider).store.acceptsSecret clientId clientSecret)
  | .assertion clientId assertion => do
    let named := clientId <|> (AssertionClaims.peek? assertion).bind (·.subject)
    let clientId := named.getD ""
    return (clientId, ← acceptsAssertion assertion clientId tenantId)

/-- Authenticates a client of a tenant. -/
def authenticate (tenantId : String) (credentials : Credentials) : Op Client := do
  let (clientId, accepted) ← checkCredentials tenantId credentials
  let p ← provider
  match (p.store.boundClient? tenantId clientId).filter fun _ => accepted with
  | some c =>
    emit (loginEvent tenantId clientId credentials.method true)
    return c
  | none =>
    emit (loginEvent tenantId clientId credentials.method false)
    refuse (.unauthorizedClient "client authentication failed")

end Op

end OpenIdProvider
