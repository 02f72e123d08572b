import OpenIdProvider.Proofs.Reports

/-!
# Uniform refusals

A refusal does not tell which check failed. For each kind of refusal there is one answer, which
depends on the settings and the request alone, so two states whose clients, tenants and records
differ in any way refuse alike (`refusals_alike`). That a caller finds nothing wrong is another
matter: only what is refused is compared.

What is wrong is said of the store: `Store.LacksTenant`, `AuthorizationRequest.LacksClient`,
`Provider.WithholdsCode` and `Provider.WithholdsRefresh` list the cases.
-/

namespace OpenIdProvider

open Op

/-! ## What may be wrong -/

/-- Whether a fault is one of the provider itself. -/
def Fault.IsInternal : Fault → Prop
  | refused e => e.IsInternal
  | outOfRange => True

/-- A tenant is missing or disabled. -/
def Store.LacksTenant (s : Store) (tenantId : String) : Prop :=
  ∀ t, s.tenant? tenantId = some t → t.enabled = false

namespace AuthorizationRequest

/-- A request names scopes and asks for a code; this is checked before anything else. -/
structure AsksForCode (r : AuthorizationRequest) : Prop where
  scope : r.scope?.isSome
  responseType : r.responseType = some "code"

/-- The client of a request is not named, missing, of another tenant or disabled. -/
def LacksClient (r : AuthorizationRequest) (s : Store) (tenantId : String) : Prop :=
  ∀ id c, r.clientId = some id → s.client? id = some c →
    id = "" ∨ c.tenantId ≠ tenantId ∨ c.enabled = false

end AuthorizationRequest

namespace Provider

/-- A code is unknown, expired or used, or it was issued to another tenant or client or for
another address. -/
def WithholdsCode (p : Provider) (tenantId clientId code : String)
    (redirectUri : Option String) : Prop :=
  ∀ c, p.store.codes.find? p.now code = some c →
    c.tenantId ≠ tenantId ∨ c.clientId ≠ clientId ∨ redirectUri ≠ some c.redirectUri

/-- A refresh token is unknown, expired or used, or it was issued to another tenant or client,
or it may not be redeemed any more. -/
def WithholdsRefresh (p : Provider) (tenantId : String) (client : Client)
    (token : String) : Prop :=
  ∀ g, p.store.refreshGrants.find? p.now token = some g →
    g.tenantId ≠ tenantId ∨ g.clientId ≠ client.clientId ∨
      client.maxRefreshTokenCount ≤ g.refreshCount

end Provider

/-! ## What is answered -/

variable {p q : Provider} {tenantId : String}

namespace AuthorizationRequest

variable {r : AuthorizationRequest} {s : Store}

/-- Without its tenant a request for a code is rejected. -/
theorem check_of_lacksTenant (hr : r.AsksForCode) (h : s.LacksTenant tenantId) :
    r.check s tenantId = .error .invalidTenant := by
  obtain ⟨scope, hscope⟩ := Option.isSome_iff_exists.mp hr.scope
  have hnone : (s.tenant? tenantId).any Tenant.enabled = false := by
    cases ht : s.tenant? tenantId with
    | none => rfl
    | some t => exact h t ht
  rw [check, hscope, hr.responseType, hnone]
  rfl

/-- Without its client a request for a code is rejected. -/
theorem check_of_lacksClient (hr : r.AsksForCode) (htenant : ¬s.LacksTenant tenantId)
    (h : r.LacksClient s tenantId) : r.check s tenantId = .error .invalidClient := by
  obtain ⟨scope, hscope⟩ := Option.isSome_iff_exists.mp hr.scope
  have hsome : (s.tenant? tenantId).any Tenant.enabled = true := by
    rw [Store.LacksTenant] at htenant
    push Not at htenant
    obtain ⟨t, ht, henabled⟩ := htenant
    rw [ht, Option.any_some, Bool.ne_false_iff.mp henabled]
  have hnone : r.client? s tenantId = none := by
    rw [client?, Option.bind_eq_none_iff]
    intro id hid
    obtain ⟨hid, hne⟩ := Option.filter_eq_some_iff.mp hid
    rw [Store.enabledClient?, Option.filter_eq_none_iff]
    intro c hc
    rcases h id c hid hc with hempty | hother | hdisabled
    · simp [hempty] at hne
    · simp [hother]
    · simp [hdisabled]
  rw [check, hscope, hr.responseType, hsome, hnone]
  rfl

end AuthorizationRequest

namespace Op

/-- A request that is not accepted sends the user to an address that depends on the settings,
the request and the error alone. -/
theorem authorize_of_check_error {r : AuthorizationRequest} {e : AuthorizationError} {u : Url}
    (hlogin : Url.parse p.config.loginUrl = .ok u) (h : r.check p.store tenantId = .error e) :
    ((authorize tenantId r).run p).1
      = .ok (.error e (u.appendPairs (Redirect.errorPairs tenantId r e))) := by
  rw [authorize, run_bind_of_ok (run_provider p), h, run_rejectRequest_of_parse hlogin]

/-- A code that is withheld has one refusal. -/
theorem redeem_of_withheld {clientId code : String} {redirectUri verifier : Option String}
    (h : p.WithholdsCode tenantId clientId code redirectUri) :
    ((redeem tenantId clientId code redirectUri verifier).run p).1
      = .error (.refused (.invalidGrant "invalid authorization code")) := by
  rw [redeem, run_bind, run_takeCode]
  cases hheld : p.store.codes.find? p.now code with
  | none => rfl
  | some c =>
    dsimp only
    rw [run_guard]
    split
    · rfl
    · rename_i howner
      rw [run_guard, if_pos]
      simp only [ne_eq, Bool.or_eq_true, decide_eq_true_eq, not_or, not_not] at howner
      exact ((h c hheld).resolve_left (not_not.mpr howner.1)).resolve_left (not_not.mpr howner.2)

/-- A refresh token that is withheld has one refusal. -/
theorem grant_of_withheld {client : Client} {r : TokenRequest} {token : String}
    (hgrant : GrantType.ofName? r.grantType = some .refreshToken)
    (htoken : r.refreshToken = some token) (h : p.WithholdsRefresh tenantId client token) :
    ((grant tenantId client r).run p).1
      = .error (.refused (.invalidGrant "invalid refresh token")) := by
  have hnone : refreshable? p tenantId client token = none := by
    rw [refreshable?, Option.filter_eq_none_iff]
    intro g hg
    rcases h g hg with htenant | hclient | hlimit
    · simp [htenant]
    · simp [hclient]
    · simp [Nat.not_lt.mpr hlimit]
  rw [grant, run_bind, run_orRefuse, hgrant]
  dsimp only
  rw [run_bind, run_tryCatch, grantFor, grantForRefresh, run_bind, run_orRefuse, htoken]
  dsimp only
  rw [run_bind, run_provider]
  dsimp only
  rw [run_bind, run_orRefuse, hnone]
  rfl

end Op

/-- Two states refuse alike: whatever is wrong in each of them, the answer is the same. -/
structure Provider.RefusesAlike (p q : Provider) : Prop where
  /-- A client is not authenticated, by its secret or by an assertion. -/
  authentication : ∀ tenantId c e e',
    ((authenticate tenantId c).run p).1 = .error e →
    ((authenticate tenantId c).run q).1 = .error e' → e = e'
  /-- There is no token for an anonymous user, and the provider is not at fault. -/
  anonymous : ∀ tenantId clientId callerToken e e',
    ((issueAnonymous tenantId clientId callerToken).run p).1 = .error e →
    ((issueAnonymous tenantId clientId callerToken).run q).1 = .error e' →
    ¬e.IsInternal → ¬e'.IsInternal → e = e'
  /-- The tenant of an authorization request is missing or disabled. -/
  tenant : ∀ tenantId r, r.AsksForCode →
    p.store.LacksTenant tenantId → q.store.LacksTenant tenantId →
    ∃ location, ((authorize tenantId r).run p).1 = .ok (.error .invalidTenant location) ∧
      ((authorize tenantId r).run q).1 = .ok (.error .invalidTenant location)
  /-- The client of an authorization request is missing, of another tenant or disabled. -/
  client : ∀ tenantId r, r.AsksForCode →
    ¬p.store.LacksTenant tenantId → r.LacksClient p.store tenantId →
    ¬q.store.LacksTenant tenantId → r.LacksClient q.store tenantId →
    ∃ location, ((authorize tenantId r).run p).1 = .ok (.error .invalidClient location) ∧
      ((authorize tenantId r).run q).1 = .ok (.error .invalidClient location)
  /-- A code is not redeemed. -/
  code : ∀ tenantId clientId code redirectUri verifier,
    p.WithholdsCode tenantId clientId code redirectUri →
    q.WithholdsCode tenantId clientId code redirectUri →
    ∃ e, ((redeem tenantId clientId code redirectUri verifier).run p).1 = .error e ∧
      ((redeem tenantId clientId code redirectUri verifier).run q).1 = .error e
  /-- A refresh token is not redeemed. The client that asks has been read from each store. -/
  refresh : ∀ tenantId client client' r token,
    GrantType.ofName? r.grantType = some .refreshToken → r.refreshToken = some token →
    p.WithholdsRefresh tenantId client token → q.WithholdsRefresh tenantId client' token →
    ∃ e, ((grant tenantId client r).run p).1 = .error e ∧
      ((grant tenantId client' r).run q).1 = .error e

/-- A refusal does not tell which check failed: two states with the same settings refuse alike,
whatever else is different between them, if the address of the login page is a URL. -/
theorem refusals_alike (hconfig : q.config = p.config)
    (hlogin : ∃ u, Url.parse p.config.loginUrl = .ok u) : p.RefusesAlike q where
  authentication tenantId c e e' hp hq := by
    rcases authenticate_cases tenantId c p with ⟨client, r, hrun, -⟩ | ⟨r, hrun, -⟩
    · rw [hrun] at hp
      cases hp
    · rw [hrun] at hp
      rcases authenticate_cases tenantId c q with ⟨client, r', hrun', -⟩ | ⟨r', hrun', -⟩
      · rw [hrun'] at hq
        cases hq
      · rw [hrun'] at hq
        exact (Except.error.inj hp).symm.trans (Except.error.inj hq)
  anonymous tenantId clientId callerToken e e' hp hq he he' := by
    have hreports := reports_issueAnonymous tenantId clientId callerToken
    obtain ⟨error, rfl, herror⟩ := hreports.refused p e hp
    obtain ⟨error', rfl, herror'⟩ := hreports.refused q e' hq
    rw [herror.resolve_left he, herror'.resolve_left he']
  tenant tenantId r hr hp hq := by
    obtain ⟨u, hu⟩ := hlogin
    exact ⟨_, authorize_of_check_error hu (AuthorizationRequest.check_of_lacksTenant hr hp),
      authorize_of_check_error (hconfig ▸ hu) (AuthorizationRequest.check_of_lacksTenant hr hq)⟩
  client tenantId r hr htenant hp htenant' hq := by
    obtain ⟨u, hu⟩ := hlogin
    exact ⟨_,
      authorize_of_check_error hu (AuthorizationRequest.check_of_lacksClient hr htenant hp),
      authorize_of_check_error (hconfig ▸ hu)
        (AuthorizationRequest.check_of_lacksClient hr htenant' hq)⟩
  code tenantId clientId code redirectUri verifier hp hq :=
    ⟨_, redeem_of_withheld hp, redeem_of_withheld hq⟩
  refresh tenantId client client' r token hgrant htoken hp hq :=
    ⟨_, grant_of_withheld hgrant htoken hp, grant_of_withheld hgrant htoken hq⟩

/-! ## Three states that refuse alike -/

namespace RefusalSample

/-- The provider of `LoginSample`, with its tenant disabled. -/
def disabled : Provider :=
  { LoginSample.provider with
    store := { LoginSample.provider.store with
      tenants := Table.empty.put { Tenant.create "T1" LoginSample.now with enabled := false } } }

/-- A provider that knows nobody. -/
def unknown : Provider :=
  { LoginSample.provider with store := .empty }

/-- Credentials with a secret that is not the client's. -/
def guess : Credentials :=
  .secret "C1" "wrong" false

end RefusalSample

section

open RefusalSample

/-- A wrong secret is refused like an unknown client, and a disabled tenant like a missing
one. -/
theorem unknown_and_wrong_alike :
    (∃ e, ((authenticate "T1" guess).run LoginSample.provider).1 = .error e ∧
      ((authenticate "T1" guess).run unknown).1 = .error e) ∧
    ∃ location, ((authorize "T1" LoginSample.request).run disabled).1
        = .ok (.error .invalidTenant location) ∧
      ((authorize "T1" LoginSample.request).run unknown).1
        = .ok (.error .invalidTenant location) := by
  have hwrong : LoginSample.provider.RefusesAlike unknown := refusals_alike rfl ⟨_, rfl⟩
  have hdisabled : disabled.RefusesAlike unknown := refusals_alike rfl ⟨_, rfl⟩
  refine ⟨?_, hdisabled.tenant "T1" _ ⟨by decide +kernel, rfl⟩ ?_ ?_⟩
  · obtain ⟨e, he⟩ : ∃ e, ((authenticate "T1" guess).run LoginSample.provider).1 = .error e :=
      ⟨_, rfl⟩
    obtain ⟨e', he'⟩ : ∃ e, ((authenticate "T1" guess).run unknown).1 = .error e := ⟨_, rfl⟩
    obtain rfl := hwrong.authentication _ _ _ _ he he'
    exact ⟨e, he, he'⟩
  · intro t ht
    obtain rfl := Option.some.inj ht
    rfl
  · have hmissing : unknown.store.tenant? "T1" = none := rfl
    simp [Store.LacksTenant, hmissing]

end

end OpenIdProvider
