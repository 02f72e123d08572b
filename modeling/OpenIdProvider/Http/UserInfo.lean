import OpenIdProvider.Time.Timestamp
import OpenIdProvider.Token.Claims

/-!
# User information

What the userinfo endpoint says of the subject of a token, and its errors.
-/

namespace OpenIdProvider

/-- The document about the subject of a token. -/
def TokenClaims.userInfo (c : TokenClaims) : Json :=
  .object (("sub", .string c.subject) :: Json.memberIf "name" .string c.name
    ++ Json.memberIf "given_name" .string c.givenName
    ++ Json.memberIf "middle_name" .string c.middleName
    ++ Json.memberIf "family_name" .string c.familyName ++ Json.memberIf "locale" .string c.locale
    ++ Json.memberIf "email" .string c.email ++ Json.memberIf "email_verified" .bool c.emailVerified
    ++ Json.memberIf "phone_number" .string c.phoneNumber
    ++ Json.memberIf "phone_number_verified" .bool c.phoneNumberVerified
    ++ Json.memberIf "address" Address.toJson c.address
    ++ [("tenant_id", .string c.tenantId), ("client_id", .string c.clientId),
      ("token_type", .string c.tokenType.name)])

/-- Why no user information is given. -/
inductive UserInfoError where
  | missingToken
  | invalidToken
  deriving DecidableEq

namespace UserInfoError

/-- The error of the OAuth protocol that stands for an error. -/
def oauthError : UserInfoError → String
  | missingToken => "invalid_request"
  | invalidToken => "invalid_token"

/-- The code of an error. -/
def code : UserInfoError → String
  | missingToken => "ERROR_MISSING_AUTHORIZATION_HEADER"
  | invalidToken => "ERROR_INVALID_TOKEN"

/-- An error in words. -/
def description : UserInfoError → String
  | missingToken => "Bearer token required in Authorization header"
  | invalidToken => "The access token is invalid or expired"

/-- The document about an error, with a number to trace it by. -/
def toJson (e : UserInfoError) (now : Instant) (traceId : String) : Json :=
  .object [("error", .string e.oauthError), ("error_code", .string e.code),
    ("error_description", .string e.description), ("error_uri", .null),
    ("timestamp", now.toJson), ("trace_id", .string traceId)]

end UserInfoError

end OpenIdProvider
