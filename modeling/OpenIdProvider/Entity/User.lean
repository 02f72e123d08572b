import OpenIdProvider.Json.Record
import OpenIdProvider.Text.Blank

/-!
# Users

An end user of a tenant, with the personal data that tokens may carry.
-/

namespace OpenIdProvider

/-- The order in which the parts of a name are said. -/
inductive NameOrder where
  | western
  | eastern
  deriving DecidableEq

namespace NameOrder

/-- The orders with their names. -/
def names : List (String × NameOrder) :=
  [("western", western), ("eastern", eastern)]

/-- The name of an order. -/
def name : NameOrder → String
  | western => "western"
  | eastern => "eastern"

end NameOrder

/-- A postal address. -/
structure Address where
  streetAddress : Option String
  locality : Option String
  region : Option String
  postalCode : Option String
  country : Option String
  deriving DecidableEq

/-- A user. -/
structure User where
  userId : String
  tenantId : String
  enabled : Bool
  firstName : Option String
  middleName : Option String
  lastName : Option String
  nameOrder : NameOrder
  email : Option String
  emailVerified : Bool
  phoneNumber : Option String
  phoneNumberVerified : Bool
  address : Option Address
  locale : Option String
  deriving DecidableEq

namespace Address

/-- The JSON form of an address, without the parts that are missing. -/
def toJson (a : Address) : Json :=
  .object (Json.memberIf "street_address" .string a.streetAddress
    ++ Json.memberIf "locality" .string a.locality ++ Json.memberIf "region" .string a.region
    ++ Json.memberIf "postal_code" .string a.postalCode
    ++ Json.memberIf "country" .string a.country)

/-- Reads an address. -/
def ofJson? (j : Json) : Option Address := do
  let r ← Json.Record.ofJson?
    ["street_address", "locality", "region", "postal_code", "country"] j
  return {
    streetAddress := ← r.optional "street_address" Json.text?
    locality := ← r.optional "locality" Json.text?
    region := ← r.optional "region" Json.text?
    postalCode := ← r.optional "postal_code" Json.text?
    country := ← r.optional "country" Json.text? }

end Address

namespace User

/-- An enabled user without personal data. -/
def create (tenantId userId : String) : User :=
  { userId, tenantId, enabled := true, firstName := none, middleName := none, lastName := none
    nameOrder := .western, email := none, emailVerified := false, phoneNumber := none
    phoneNumberVerified := false, address := none, locale := none }

/-- The parts of a user's name in the order in which they are said. -/
def nameParts (u : User) : List (Option String) :=
  match u.nameOrder with
  | .western => [u.firstName, u.middleName, u.lastName]
  | .eastern => [u.lastName, u.firstName, u.middleName]

/-- The full name: the parts that are not blank, trimmed and joined by spaces. -/
def fullName (u : User) : Option String :=
  let parts := (u.nameParts.filterMap id).map Text.trim
  match parts.filter (· ≠ "") with
  | [] => none
  | parts => some (Text.unwords parts)

/-- The JSON form of a user. -/
def toJson (u : User) : Json :=
  .object [("user_id", .string u.userId), ("tenant_id", .string u.tenantId),
    ("enabled", .bool u.enabled), ("first_name", .ofText? u.firstName),
    ("middle_name", .ofText? u.middleName), ("last_name", .ofText? u.lastName),
    ("name_order", .string u.nameOrder.name), ("email", .ofText? u.email),
    ("email_verified", .bool u.emailVerified), ("phone_number", .ofText? u.phoneNumber),
    ("phone_number_verified", .bool u.phoneNumberVerified),
    ("address", .ofOption Address.toJson u.address), ("locale", .ofText? u.locale)]

/-- The names of the fields, in order. -/
def fieldNames : List String :=
  ["user_id", "tenant_id", "enabled", "first_name", "middle_name", "last_name", "name_order",
    "email", "email_verified", "phone_number", "phone_number_verified", "address", "locale"]

/-- Reads a user. -/
def ofJson? (j : Json) : Option User := do
  let r ← Json.Record.ofJson? fieldNames j
  return {
    userId := ← r.required "user_id" Json.text?
    tenantId := ← r.required "tenant_id" Json.text?
    enabled := ← r.required "enabled" Json.bool?
    firstName := ← r.optional "first_name" Json.text?
    middleName := ← r.optional "middle_name" Json.text?
    lastName := ← r.optional "last_name" Json.text?
    nameOrder := ← r.required "name_order" (Json.variant? NameOrder.names)
    email := ← r.optional "email" Json.text?
    emailVerified := ← r.required "email_verified" Json.bool?
    phoneNumber := ← r.optional "phone_number" Json.text?
    phoneNumberVerified := ← r.required "phone_number_verified" Json.bool?
    address := ← r.optional "address" Address.ofJson?
    locale := ← r.optional "locale" Json.text? }

end User

end OpenIdProvider
