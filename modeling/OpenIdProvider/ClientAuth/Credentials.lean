import OpenIdProvider.Error
import OpenIdProvider.Text.Base64
import OpenIdProvider.Text.Blank
import OpenIdProvider.Text.Percent

/-!
# Client credentials

How a client says who it is: with its secret in the authorization header or in the
form, or with an assertion signed with its secret. `Credentials.extract` finds the
one way that a request uses.
-/

namespace OpenIdProvider

/-- A way for a client to authenticate. -/
inductive ClientAuthMethod where
  | secretBasic
  | secretPost
  | secretJwt
  deriving DecidableEq

namespace ClientAuthMethod

/-- The name of a method. -/
def name : ClientAuthMethod → String
  | secretBasic => "client_secret_basic"
  | secretPost => "client_secret_post"
  | secretJwt => "client_secret_jwt"

end ClientAuthMethod

/-- The type of assertion that is supported. -/
def assertionTypeJwt : String :=
  "urn:ietf:params:oauth:client-assertion-type:jwt-bearer"

/-- The credentials of a client. -/
inductive Credentials where
  /-- A secret, in the authorization header or else in the form. -/
  | secret (clientId clientSecret : String) (inHeader : Bool)
  /-- An assertion, and the client that the form names. -/
  | assertion (clientId : Option String) (assertion : String)
  deriving DecidableEq

namespace Credentials

/-- The method that credentials belong to. -/
def method : Credentials → ClientAuthMethod
  | secret _ _ true => .secretBasic
  | secret _ _ false => .secretPost
  | assertion _ _ => .secretJwt

/-- The description of credentials in diagnostics: their secret parts are left
out. -/
def description (c : Credentials) : String :=
  c.method.name ++ " of " ++ match c with
    | secret clientId _ _ => clientId
    | assertion clientId _ => clientId.getD "-"

/-- The text of a percent-encoded part of a header. -/
def decodePart? (cs : List Char) : Option String :=
  Utf8.decode? (Percent.decode cs)

/-- The client and the secret in the value of an authorization header. -/
def decodeBasic? (encoded : String) : Option (String × String) := do
  let text ← Utf8.decode? (← Base64.decode? (Text.trim encoded))
  match text.toList.span (· ≠ ':') with
  | (_, []) => none
  | (clientId, _ :: clientSecret) => return (← decodePart? clientId, ← decodePart? clientSecret)

/-- What follows the scheme in an authorization header with the Basic scheme. -/
def basic? (header : String) : Option String :=
  if "Basic ".toList.isPrefixOf header.toList then some (.ofList (header.toList.drop 6)) else none

/-- The credentials in the value of an authorization header. -/
def ofBasic (encoded : String) (formClientId : Option String) :
    Except ProtocolError Credentials :=
  match decodeBasic? encoded with
  | none => .error (.invalidRequest "malformed Basic credentials")
  | some (clientId, clientSecret) =>
    if formClientId.all (· == clientId) then .ok (secret clientId clientSecret true)
    else .error (.invalidRequest "client_id does not match credentials")

/-- The credentials of a secret in the form. -/
def ofPost (clientSecret : String) (clientId : Option String) : Except ProtocolError Credentials :=
  match clientId with
  | some clientId => .ok (secret clientId clientSecret false)
  | none => .error (.invalidRequest "client_id is required with client_secret")

/-- The credentials of an assertion in the form. -/
def ofAssertion (text : String) (type clientId : Option String) :
    Except ProtocolError Credentials :=
  if type = some assertionTypeJwt then .ok (assertion clientId text)
  else .error (.invalidRequest "unsupported client_assertion_type")

/-- The credentials in a request, which must use exactly one method. -/
def extract (authorization clientId clientSecret clientAssertion assertionType : Option String) :
    Except ProtocolError Credentials :=
  match authorization.bind basic?, clientSecret, clientAssertion with
  | some encoded, none, none => ofBasic encoded clientId
  | none, some clientSecret, none => ofPost clientSecret clientId
  | none, none, some text => ofAssertion text assertionType clientId
  | none, none, none => .error (.invalidClient "client authentication required")
  | _, _, _ => .error (.invalidRequest "multiple client authentication methods")

end Credentials

end OpenIdProvider
