import OpenIdProvider.Authorization.Pkce
import OpenIdProvider.ClientAuth.Credentials
import OpenIdProvider.Config
import OpenIdProvider.Provider.Grants

/-!
# Discovery

The document in which a tenant's issuer says where its endpoints are and what it
supports.
-/

namespace OpenIdProvider

/-- The addresses of a tenant's endpoints. -/
structure Endpoints where
  issuer : String
  authorization : String
  token : String
  keySet : String
  userInfo : String
  revocation : String
  deriving DecidableEq

namespace Config

/-- The addresses of a tenant's endpoints. -/
def endpoints (c : Config) (tenantId : String) : Endpoints :=
  let front := c.issuer tenantId ++ "/oidc"
  { issuer := c.issuer tenantId, authorization := front ++ "/authorize"
    token := c.tokenEndpoint tenantId, keySet := front ++ "/jwks", userInfo := front ++ "/userinfo"
    revocation := front ++ "/revoke" }

end Config

namespace Endpoints

/-- The claims that tokens may make. -/
def claims : List String :=
  ["sub", "iss"] ++ TokenClaims.names.drop 2

/-- The methods by which a client may authenticate. -/
def authMethods : List String :=
  [ClientAuthMethod.secretBasic, .secretPost, .secretJwt].map ClientAuthMethod.name

/-- The document with these addresses. -/
def toJson (e : Endpoints) : Json :=
  .object [("issuer", .string e.issuer), ("authorization_endpoint", .string e.authorization),
    ("token_endpoint", .string e.token), ("jwks_uri", .string e.keySet),
    ("response_types_supported", .ofTexts ["code"]),
    ("subject_types_supported", .ofTexts ["public"]),
    ("id_token_signing_alg_values_supported", .ofTexts ["RS256"]),
    ("userinfo_endpoint", .string e.userInfo), ("scopes_supported", .ofTexts Scope.standard),
    ("response_modes_supported", .ofTexts [ResponseMode.query.name, ResponseMode.fragment.name]),
    ("grant_types_supported", .ofTexts (GrantType.all.map GrantType.name)),
    ("token_endpoint_auth_methods_supported", .ofTexts authMethods),
    ("token_endpoint_auth_signing_alg_values_supported", .ofTexts ["HS256"]),
    ("claims_supported", .ofTexts claims), ("revocation_endpoint", .string e.revocation),
    ("revocation_endpoint_auth_methods_supported", .ofTexts authMethods),
    ("code_challenge_methods_supported", .ofTexts [Pkce.s256])]

end Endpoints

end OpenIdProvider
