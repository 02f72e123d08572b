import OpenIdProvider.Provider.Basic
import OpenIdProvider.Token.Claims
import OpenIdProvider.Token.Jws

/-!
# Verification of tokens

A token of this provider is accepted for a tenant when a published key has signed
it, the tenant's issuer has issued it for that tenant, and it has not expired.
-/

namespace OpenIdProvider

namespace TokenClaims

/-- The claims of a token, once its signature and its issuer are checked. -/
def ofToken (t : Jws) (key : Rsa.PublicKey) (issuer : String) : Except TokenFault TokenClaims := do
  t.checkSignature (Rsa.verify key)
  let c ← t.readPayload TokenClaims.ofJson?
  if !registeredClaimsFit (← Jws.jsonOf t.payload) then throw .json
  if c.expiresAt < 0 then throw (.missingClaim "exp")
  if c.issuer ≠ issuer then throw .issuer
  return c

end TokenClaims

namespace Op

/-- Refuses a token. -/
def rejectToken {α : Type} (reason : String) : Op α :=
  refuse (.invalidToken reason)

/-- The header and the parts of a token that claims to be signed with a key of
ours: the identifier of the key and the parts. -/
def readToken (token : String) : Op (String × Jws) := do
  let some t := Jws.ofText? token
    | rejectToken ("malformed token: " ++ TokenFault.shape.message)
  match t.readHeader with
  | .error e => rejectToken ("malformed token: " ++ e.message)
  | .ok h =>
    if h.algorithm ≠ .rs256 then rejectToken ("unexpected algorithm " ++ h.algorithm.name)
    else match h.keyId with
    | some keyId => return (keyId, t)
    | none => rejectToken "missing kid in token header"

/-- The claims of a token, if it is accepted for a tenant. -/
def verifyToken (tenantId token : String) : Op TokenClaims := do
  let (keyId, t) ← readToken token
  let some webKey := (← publishedKeys).find? keyId
    | rejectToken ("unknown signing key: " ++ keyId)
  let some key := webKey.publicKey?
    | rejectToken ("unusable signing key " ++ keyId ++ ": " ++ TokenFault.base64.message)
  let p ← provider
  match TokenClaims.ofToken t key (p.config.issuer tenantId) with
  | .error e => rejectToken e.message
  | .ok c =>
    if c.isExpired p.now then rejectToken "token expired"
    else if c.tenantId ≠ tenantId then rejectToken "token issued for another tenant"
    else return c

end Op

end OpenIdProvider
