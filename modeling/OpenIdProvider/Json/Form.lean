import OpenIdProvider.Audit
import OpenIdProvider.Authorization.Request
import OpenIdProvider.Config
import OpenIdProvider.Entity.Client
import OpenIdProvider.Entity.Scope
import OpenIdProvider.Entity.SigningKey
import OpenIdProvider.Entity.Tenant
import OpenIdProvider.Entity.User
import OpenIdProvider.Key.WebKey
import OpenIdProvider.Record.Basic
import OpenIdProvider.Token.Claims

/-!
# JSON forms

The types of values that have a JSON form: how a value is written, and how it is
read back. `JsonForm.reprint?` reads a text and writes the value again.
-/

namespace OpenIdProvider

/-- A type of values with a JSON form. -/
class JsonForm (α : Type) where
  toJson : α → Json
  ofJson? : Json → Option α

namespace JsonForm

/-- Reads a value from its text. -/
def read? (α : Type) [JsonForm α] (text : String) : Option α :=
  (Json.parse? text).bind ofJson?

/-- Reads a value from its text and writes it again. -/
def reprint? (α : Type) [JsonForm α] (text : String) : Option Json :=
  (read? α text).map toJson

end JsonForm

instance : JsonForm Config := ⟨Config.toJson, Config.ofJson?⟩
instance : JsonForm Tenant := ⟨Tenant.toJson, Tenant.ofJson?⟩
instance : JsonForm Client := ⟨Client.toJson, Client.ofJson?⟩
instance : JsonForm ClientUpdate := ⟨ClientUpdate.toJson, ClientUpdate.ofJson?⟩
instance : JsonForm User := ⟨User.toJson, User.ofJson?⟩
instance : JsonForm Address := ⟨Address.toJson, Address.ofJson?⟩
instance : JsonForm Scope := ⟨Scope.toJson, Scope.ofJson?⟩
instance : JsonForm ScopeGrant := ⟨ScopeGrant.toJson, ScopeGrant.ofJson?⟩
instance : JsonForm SigningKey := ⟨SigningKey.toJson, SigningKey.ofJson?⟩
instance : JsonForm PendingLogin := ⟨PendingLogin.toJson, PendingLogin.ofJson?⟩
instance : JsonForm AuthorizationCode := ⟨AuthorizationCode.toJson, AuthorizationCode.ofJson?⟩
instance : JsonForm RefreshGrant := ⟨RefreshGrant.toJson, RefreshGrant.ofJson?⟩
instance : JsonForm AssertionUse := ⟨AssertionUse.toJson, AssertionUse.ofJson?⟩
instance : JsonForm AuthorizationRequest :=
  ⟨AuthorizationRequest.toJson, AuthorizationRequest.ofJson?⟩
instance : JsonForm TokenRequest := ⟨TokenRequest.toJson, TokenRequest.ofJson?⟩
instance : JsonForm RevocationRequest := ⟨RevocationRequest.toJson, RevocationRequest.ofJson?⟩
instance : JsonForm TokenClaims := ⟨TokenClaims.toJson, TokenClaims.ofJson?⟩
instance : JsonForm AssertionClaims := ⟨AssertionClaims.toJson, AssertionClaims.ofJson?⟩
instance : JsonForm Audience := ⟨Audience.toJson, Audience.ofJson?⟩
instance : JsonForm KeySet := ⟨KeySet.toJson, KeySet.ofJson?⟩
instance : JsonForm AuditRecord := ⟨AuditRecord.toJson, AuditRecord.ofJson?⟩

end OpenIdProvider
