import OpenIdProvider.Entity.Scope
import OpenIdProvider.Entity.User

/-!
# Claims

The claims that tokens make. `TokenClaims` are those of the provider's own tokens;
`AssertionClaims` are those that a client makes of itself when it authenticates
with an assertion.
-/

namespace OpenIdProvider

/-- Whom a token is for. -/
inductive TokenType where
  | endUser
  | serviceAccount
  | anonymousUser
  deriving DecidableEq

namespace TokenType

/-- The name of a type. -/
def name : TokenType → String
  | endUser => "END_USER"
  | serviceAccount => "SERVICE_ACCOUNT"
  | anonymousUser => "ANONYMOUS_USER"

/-- The types with their names. -/
def names : List (String × TokenType) :=
  [("END_USER", endUser), ("SERVICE_ACCOUNT", serviceAccount), ("ANONYMOUS_USER", anonymousUser)]

end TokenType

/-- The parties that a token is meant for. -/
inductive Audience where
  | single (party : String)
  | many (parties : List String)
  deriving DecidableEq

namespace Audience

/-- Whether a party is among those meant. -/
def contains (a : Audience) (party : String) : Bool :=
  match a with
  | single p => p == party
  | many ps => ps.contains party

/-- Whether a party is the only one meant. -/
def isExactly (a : Audience) (party : String) : Bool :=
  match a with
  | single p => p == party
  | many ps => ps == [party]

/-- The JSON form of an audience. -/
def toJson : Audience → Json
  | single p => .string p
  | many ps => .ofTexts ps

/-- Reads an audience. -/
def ofJson? : Json → Option Audience
  | .string p => some (single p)
  | j => (Json.list? Json.text? j).map many

end Audience

/-- The claims of a token. -/
structure TokenClaims where
  issuer : String
  subject : String
  audience : Audience
  /-- The second from which on the token is not valid any more. -/
  expiresAt : Int
  issuedAt : Int
  /-- The identifier of the token. -/
  jti : String
  name : Option String
  givenName : Option String
  middleName : Option String
  familyName : Option String
  email : Option String
  emailVerified : Option Bool
  phoneNumber : Option String
  phoneNumberVerified : Option Bool
  address : Option Address
  locale : Option String
  scope : Option String
  tenantId : String
  clientId : String
  tokenType : TokenType
  deriving DecidableEq

namespace TokenClaims

/-- The claims of a token for a subject, without personal data and scope. -/
def create (issuer subject tenantId clientId jti : String) (tokenType : TokenType)
    (issuedAt expiresAt : Instant) : TokenClaims :=
  { issuer, subject, audience := .single clientId, expiresAt := expiresAt.second
    issuedAt := issuedAt.second, jti, name := none, givenName := none, middleName := none
    familyName := none, email := none, emailVerified := none, phoneNumber := none
    phoneNumberVerified := none, address := none, locale := none, scope := none, tenantId, clientId
    tokenType }

/-- The claims with a user's personal data. -/
def withUser (c : TokenClaims) (u : User) : TokenClaims :=
  { c with
    name := u.fullName
    givenName := u.firstName
    middleName := u.middleName
    familyName := u.lastName
    email := u.email <|> c.email
    emailVerified := u.email.map (fun _ => u.emailVerified) <|> c.emailVerified
    phoneNumber := u.phoneNumber <|> c.phoneNumber
    phoneNumberVerified := u.phoneNumber.map (fun _ => u.phoneNumberVerified)
      <|> c.phoneNumberVerified
    address := u.address
    locale := u.locale }

/-- The claims with a scope string; an empty one is no claim. -/
def withScope (c : TokenClaims) (scope : String) : TokenClaims :=
  { c with scope := if scope = "" then none else some scope }

/-- Whether the claims include a scope. -/
def hasScope (c : TokenClaims) (scope : String) : Bool :=
  c.scope.any fun s => (Scope.tokens s).contains scope

/-- Whether a token has expired. -/
def isExpired (c : TokenClaims) (now : Instant) : Bool :=
  c.expiresAt ≤ now.second

/-- The names of the claims, in order. -/
def names : List String :=
  ["iss", "sub", "aud", "exp", "iat", "jti", "name", "given_name", "middle_name", "family_name",
    "email", "email_verified", "phone_number", "phone_number_verified", "address", "locale",
    "scope", "tenant_id", "client_id", "token_type"]

/-- The personal data among the claims. -/
def personalMembers (c : TokenClaims) : List (String × Json) :=
  Json.memberIf "name" .string c.name ++ Json.memberIf "given_name" .string c.givenName
    ++ Json.memberIf "middle_name" .string c.middleName
    ++ Json.memberIf "family_name" .string c.familyName ++ Json.memberIf "email" .string c.email
    ++ Json.memberIf "email_verified" .bool c.emailVerified
    ++ Json.memberIf "phone_number" .string c.phoneNumber
    ++ Json.memberIf "phone_number_verified" .bool c.phoneNumberVerified
    ++ Json.memberIf "address" Address.toJson c.address
    ++ Json.memberIf "locale" .string c.locale

/-- The JSON form of claims, without those that are missing. -/
def toJson (c : TokenClaims) : Json :=
  .object ([("iss", .string c.issuer), ("sub", .string c.subject), ("aud", c.audience.toJson),
      ("exp", .integer c.expiresAt), ("iat", .integer c.issuedAt), ("jti", .string c.jti)]
    ++ c.personalMembers ++ Json.memberIf "scope" .string c.scope
    ++ [("tenant_id", .string c.tenantId), ("client_id", .string c.clientId),
      ("token_type", .string c.tokenType.name)])

/-- Reads claims. -/
def ofJson? (j : Json) : Option TokenClaims := do
  let r ← Json.Record.ofJson? names j
  return {
    issuer := ← r.required "iss" Json.text?
    subject := ← r.required "sub" Json.text?
    audience := ← r.required "aud" Audience.ofJson?
    expiresAt := ← r.required "exp" Json.int64?
    issuedAt := ← r.required "iat" Json.int64?
    jti := ← r.required "jti" Json.text?
    name := ← r.optional "name" Json.text?
    givenName := ← r.optional "given_name" Json.text?
    middleName := ← r.optional "middle_name" Json.text?
    familyName := ← r.optional "family_name" Json.text?
    email := ← r.optional "email" Json.text?
    emailVerified := ← r.optional "email_verified" Json.bool?
    phoneNumber := ← r.optional "phone_number" Json.text?
    phoneNumberVerified := ← r.optional "phone_number_verified" Json.bool?
    address := ← r.optional "address" Address.ofJson?
    locale := ← r.optional "locale" Json.text?
    scope := ← r.optional "scope" Json.text?
    tenantId := ← r.required "tenant_id" Json.text?
    clientId := ← r.required "client_id" Json.text?
    tokenType := ← r.required "token_type" (Json.variant? TokenType.names) }

end TokenClaims

/-- The claims of an assertion with which a client authenticates. -/
structure AssertionClaims where
  issuer : Option String
  subject : Option String
  audience : Option Audience
  expiresAt : Option Int
  jti : Option String
  deriving DecidableEq

namespace AssertionClaims

/-- The JSON form of an assertion's claims. -/
def toJson (c : AssertionClaims) : Json :=
  .object [("iss", .ofText? c.issuer), ("sub", .ofText? c.subject),
    ("aud", .ofOption Audience.toJson c.audience), ("exp", .ofOption .integer c.expiresAt),
    ("jti", .ofText? c.jti)]

/-- Reads an assertion's claims. -/
def ofJson? (j : Json) : Option AssertionClaims := do
  let r ← Json.Record.ofJson? ["iss", "sub", "aud", "exp", "jti"] j
  return {
    issuer := ← r.withDefault "iss" (Json.optional? Json.text?) none
    subject := ← r.withDefault "sub" (Json.optional? Json.text?) none
    audience := ← r.withDefault "aud" (Json.optional? Audience.ofJson?) none
    expiresAt := ← r.withDefault "exp" (Json.optional? Json.int64?) none
    jti := ← r.withDefault "jti" (Json.optional? Json.text?) none }

end AssertionClaims

end OpenIdProvider
