import OpenIdProvider.Entity.Scope
import OpenIdProvider.Entity.SigningKey
import OpenIdProvider.Entity.Tenant
import OpenIdProvider.Entity.User
import OpenIdProvider.Store.Records

/-!
# The store

Everything that the provider keeps: tenants with their clients, users and scopes,
the signing keys in the order of their creation, and the records that expire.
-/

namespace OpenIdProvider

/-- The key of a user: its tenant and its identifier there. -/
def User.key (u : User) : String × String :=
  (u.tenantId, u.userId)

/-- The key of a scope: its tenant and its name there. -/
def Scope.key (s : Scope) : String × String :=
  (s.tenantId, s.scopeName)

/-- A grant of a scope is its own key. -/
def ScopeGrant.key (g : ScopeGrant) : ScopeGrant :=
  g

/-- What the provider keeps. -/
structure Store where
  tenants : Table Tenant.tenantId
  clients : Table Client.clientId
  users : Table User.key
  scopes : Table Scope.key
  scopeGrants : Table ScopeGrant.key
  signingKeys : Table SigningKey.keyId
  pendingLogins : Records PendingLogin
  codes : Records AuthorizationCode
  refreshGrants : Records RefreshGrant
  assertionUses : Records AssertionUse

namespace Store

/-- The store that holds nothing. -/
def empty : Store where
  tenants := .empty
  clients := .empty
  users := .empty
  scopes := .empty
  scopeGrants := .empty
  signingKeys := .empty
  pendingLogins := .empty
  codes := .empty
  refreshGrants := .empty
  assertionUses := .empty

instance : Inhabited Store := ⟨empty⟩

/-! ## Tenants -/

/-- The tenant of an identifier. -/
def tenant? (s : Store) (tenantId : String) : Option Tenant :=
  s.tenants.get? tenantId

/-- The tenant of an identifier, if requests to it are served. -/
def activeTenant? (s : Store) (tenantId : String) : Option Tenant :=
  (s.tenant? tenantId).filter Tenant.isActive

/-- Adds a tenant. -/
def createTenant (s : Store) (t : Tenant) : Except StoreError Store :=
  if s.tenants.contains t.tenantId then .error (.duplicate "Tenant" t.tenantId)
  else .ok { s with tenants := s.tenants.put t }

/-- Changes a tenant. -/
def updateTenant (s : Store) (t : Tenant) : Except StoreError Store :=
  if s.tenants.contains t.tenantId then .ok { s with tenants := s.tenants.put t }
  else .error (.notFound "Tenant" t.tenantId)

/-! ## Clients -/

/-- The client of an identifier. -/
def client? (s : Store) (clientId : String) : Option Client :=
  s.clients.get? clientId

/-- The enabled client of an identifier in a tenant. -/
def enabledClient? (s : Store) (tenantId clientId : String) : Option Client :=
  (s.client? clientId).filter fun c => c.tenantId == tenantId && c.enabled

/-- Adds a client. -/
def createClient (s : Store) (c : Client) : Except StoreError Store :=
  if s.clients.contains c.clientId then .error (.duplicate "Client" c.clientId)
  else .ok { s with clients := s.clients.put c }

/-- Changes a client; its tenant and its secret cannot change. -/
def updateClient (s : Store) (c : Client) : Except StoreError Store :=
  match s.client? c.clientId with
  | none => .error (.notFound "Client" c.clientId)
  | some old =>
    if old.tenantId ≠ c.tenantId then .error (.invalidData "client tenant cannot change")
    else if old.clientSecret ≠ c.clientSecret then
      .error (.invalidData "client secret cannot change")
    else .ok { s with clients := s.clients.put c }

/-! ## Users -/

/-- The user of an identifier in a tenant. -/
def user? (s : Store) (tenantId userId : String) : Option User :=
  s.users.get? (tenantId, userId)

/-- The user of an identifier in a tenant, if it may log in. -/
def enabledUser? (s : Store) (tenantId userId : String) : Option User :=
  (s.user? tenantId userId).filter User.enabled

/-- Adds a user. -/
def createUser (s : Store) (u : User) : Except StoreError Store :=
  if s.users.contains u.key then .error (.duplicate "User" u.userId)
  else .ok { s with users := s.users.put u }

/-! ## Scopes -/

/-- The scopes of a tenant, sorted by name. -/
def scopesOf (s : Store) (tenantId : String) : List Scope :=
  (s.scopes.rows.filter fun x => x.tenantId == tenantId).mergeSort
    fun x y => x.scopeName ≤ y.scopeName

/-- Adds a scope. -/
def createScope (s : Store) (x : Scope) : Except StoreError Store :=
  if s.scopes.contains x.key then .error (.duplicate "Scope" x.scopeName)
  else .ok { s with scopes := s.scopes.put x }

/-- The grants of scopes to a client, sorted by name. -/
def scopeGrantsOf (s : Store) (tenantId clientId : String) : List ScopeGrant :=
  (s.scopeGrants.rows.filter fun g => g.tenantId == tenantId && g.clientId == clientId).mergeSort
    fun g h => g.scopeName ≤ h.scopeName

/-- The names of the scopes granted to a client, sorted. -/
def grantedScopes (s : Store) (c : Client) : List String :=
  (s.scopeGrantsOf c.tenantId c.clientId).map ScopeGrant.scopeName

/-- Grants a scope to a client; once is enough. -/
def grantScope (s : Store) (g : ScopeGrant) : Store :=
  { s with scopeGrants := s.scopeGrants.put g }

/-! ## Signing keys -/

/-- The signing keys of a tenant, in the order of their creation. -/
def signingKeysOf (s : Store) (tenantId : String) : List SigningKey :=
  s.signingKeys.rows.filter fun k => k.tenantId == tenantId

/-- Adds a signing key. -/
def createSigningKey (s : Store) (k : SigningKey) : Except StoreError Store :=
  if s.signingKeys.contains k.keyId then .error (.duplicate "SigningKey" k.keyId)
  else .ok { s with signingKeys := s.signingKeys.put k }

/-- Revokes a signing key. -/
def revokeSigningKey (s : Store) (keyId : String) : Except StoreError Store :=
  match s.signingKeys.get? keyId with
  | some k => .ok { s with signingKeys := s.signingKeys.put k.revoke }
  | none => .error (.notFound "SigningKey" keyId)

/-! ## Records that expire -/

/-- Removes the expired records of all kinds, and counts them. -/
def purge (s : Store) (now : Instant) : Nat × Store :=
  let (a, pendingLogins) := s.pendingLogins.purge now
  let (b, codes) := s.codes.purge now
  let (c, refreshGrants) := s.refreshGrants.purge now
  let (d, assertionUses) := s.assertionUses.purge now
  (a + b + c + d, { s with pendingLogins, codes, refreshGrants, assertionUses })

end Store

end OpenIdProvider
