import OpenIdProvider.Proofs.Replay

/-!
# What a client keeps for life

Whoever changes a client submits a whole one, so its tenant and its secret stay what they
are only because the store compares them with those it holds.

* `createClient_eq_ok` and `updateClient_eq_ok` say when the store takes a client;
* `client_step` and `client_exec`: a client that is stored stays stored, as a client of the
  same tenant with the same secret;
* `updateClient_applyUpdate`: a stored client is updated to what `Client.UpdatedBy` says of
  it, and nothing else changes.
-/

namespace OpenIdProvider

variable {c d e : Client} {s t : Store}

/-! ## Identity and settings -/

/-- What is fixed for life: `d` has the identifier, the tenant and the secret of `c`. -/
structure Client.SameIdentity (c d : Client) : Prop where
  clientId : d.clientId = c.clientId
  tenantId : d.tenantId = c.tenantId
  clientSecret : d.clientSecret = c.clientSecret

/-- A setting after an update: the one that is given, or else the one before. -/
def ClientUpdate.Settles {α : Type} (given : Option α) (before after : α) : Prop :=
  match given with
  | some a => after = a
  | none => after = before

open ClientUpdate (Settles)

/-- `d` is `c` with the settings that an update gives, at the instant of the update. -/
structure Client.UpdatedBy (u : ClientUpdate) (now : Instant) (c d : Client) : Prop where
  identity : c.SameIdentity d
  clientType : d.clientType = c.clientType
  createdAt : d.createdAt = c.createdAt
  clientName : Settles (u.clientName.map some) c.clientName d.clientName
  enabled : Settles u.enabled c.enabled d.enabled
  oidcEnabled : Settles u.oidcEnabled c.oidcEnabled d.oidcEnabled
  pkceEnabled : Settles u.pkceEnabled c.pkceEnabled d.pkceEnabled
  redirectUris : Settles u.redirectUris c.redirectUris d.redirectUris
  maxRefreshTokenCount :
    Settles u.maxRefreshTokenCount c.maxRefreshTokenCount d.maxRefreshTokenCount
  endUserTokenTtlSeconds : Settles (u.endUserTokenTtlSeconds.map some) c.endUserTokenTtlSeconds
    d.endUserTokenTtlSeconds
  refreshTokenTtlSeconds : Settles (u.refreshTokenTtlSeconds.map some) c.refreshTokenTtlSeconds
    d.refreshTokenTtlSeconds
  updatedAt : d.updatedAt = now

namespace Client

theorem SameIdentity.refl (c : Client) : c.SameIdentity c := ⟨rfl, rfl, rfl⟩

theorem SameIdentity.trans (h₁ : c.SameIdentity d) (h₂ : d.SameIdentity e) : c.SameIdentity e :=
  ⟨h₂.clientId.trans h₁.clientId, h₂.tenantId.trans h₁.tenantId,
    h₂.clientSecret.trans h₁.clientSecret⟩

end Client

theorem ClientUpdate.settles_getD {α : Type} (given : Option α) (before : α) :
    Settles given before (given.getD before) := by
  cases given <;> rfl

theorem ClientUpdate.settles_or {α : Type} (given before : Option α) :
    Settles (given.map some) before (given <|> before) := by
  cases given <;> rfl

theorem Client.updatedBy_applyUpdate (c : Client) (u : ClientUpdate) (now : Instant) :
    c.UpdatedBy u now (c.applyUpdate u now) where
  identity := ⟨rfl, rfl, rfl⟩
  clientType := rfl
  createdAt := rfl
  clientName := ClientUpdate.settles_or _ _
  enabled := ClientUpdate.settles_getD _ _
  oidcEnabled := ClientUpdate.settles_getD _ _
  pkceEnabled := ClientUpdate.settles_getD _ _
  redirectUris := ClientUpdate.settles_getD _ _
  maxRefreshTokenCount := ClientUpdate.settles_getD _ _
  endUserTokenTtlSeconds := ClientUpdate.settles_or _ _
  refreshTokenTtlSeconds := ClientUpdate.settles_or _ _
  updatedAt := rfl

/-! ## What the store takes -/

namespace Store

/-- A client is added unless its identifier is taken. -/
theorem createClient_eq_ok :
    s.createClient c = .ok t ↔
      s.client? c.clientId = none ∧ t = { s with clients := s.clients.put c } := by
  rw [createClient, Table.contains, ← client?]
  cases s.client? c.clientId <;> simp [eq_comm (a := t)]

/-- A client is changed when the stored one has its identity. -/
theorem updateClient_eq_ok :
    s.updateClient c = .ok t ↔ (∃ d, s.client? c.clientId = some d ∧ c.SameIdentity d) ∧
      t = { s with clients := s.clients.put c } := by
  rw [updateClient]
  cases hd : s.client? c.clientId with
  | none => simp
  | some d =>
    have hid : d.clientId = c.clientId := Table.key_of_get? hd
    by_cases htenant : d.tenantId = c.tenantId
    · by_cases hsecret : d.clientSecret = c.clientSecret
      · have hsame : c.SameIdentity d := ⟨hid, htenant, hsecret⟩
        simp [htenant, hsecret, hsame, eq_comm (a := t)]
      · have hother : ¬ c.SameIdentity d := fun h => hsecret h.clientSecret
        simp [htenant, hsecret, hother]
    · have hother : ¬ c.SameIdentity d := fun h => htenant h.tenantId
      simp [htenant, hother]

/-- A client that is put replaces that of its identifier, and no other one. -/
theorem client?_put (s : Store) (c : Client) (clientId : String) :
    ({ s with clients := s.clients.put c } : Store).client? clientId
      = if clientId = c.clientId then some c else s.client? clientId :=
  Table.get?_put s.clients c clientId

/-- Any update of a stored client is taken: that client becomes the updated one, no other
client changes, and nothing else does. -/
theorem updateClient_applyUpdate (h : s.client? c.clientId = some c) (u : ClientUpdate)
    (now : Instant) :
    ∃ t, s.updateClient (c.applyUpdate u now) = .ok t ∧
      (∃ d, t.client? c.clientId = some d ∧ c.UpdatedBy u now d) ∧
      (∀ clientId, clientId ≠ c.clientId → t.client? clientId = s.client? clientId) ∧
      t = { s with clients := t.clients } := by
  have hupdated := c.updatedBy_applyUpdate u now
  have hid := hupdated.identity
  refine ⟨_, updateClient_eq_ok.mpr ⟨⟨c, hid.clientId.symm ▸ h, ?_⟩, rfl⟩, ⟨_, ?_, hupdated⟩,
    fun clientId hother => ?_, rfl⟩
  · exact ⟨hid.clientId.symm, hid.tenantId.symm, hid.clientSecret.symm⟩
  · rw [client?_put, if_pos hid.clientId.symm]
  · rw [client?_put, if_neg (hid.clientId.symm ▸ hother)]

end Store

/-! ## What a run keeps of a client -/

/-- Whether a change is refused. -/
def EntityChange.Refused (x : EntityChange) (s : Store) : Prop :=
  ∃ error, x.result s = .error error

theorem EntityChange.refused_iff {x : EntityChange} :
    x.Refused s ↔ ∀ t, x.result s ≠ .ok t := by
  rw [Refused]
  cases x.result s <;> simp

/-- A client is not added exactly when its identifier is taken. -/
theorem EntityChange.refused_createClient :
    (createClient c).Refused s ↔ ∃ d, s.client? c.clientId = some d := by
  rw [refused_iff]
  simp [result, Store.createClient_eq_ok, Option.ne_none_iff_exists']

/-- A client is not changed exactly when no client of its identity is stored. -/
theorem EntityChange.refused_updateClient :
    (updateClient c).Refused s ↔ ∀ d, s.client? c.clientId = some d → ¬ c.SameIdentity d := by
  rw [refused_iff, result]
  simp only [ne_eq, Store.updateClient_eq_ok, not_and]
  constructor
  · intro h d hd hsame
    exact h _ ⟨d, hd, hsame⟩ rfl
  · rintro h t ⟨d, hd, hsame⟩
    exact absurd hsame (h d hd)

namespace Provider

variable {p : Provider} {x : EntityChange} {clientId : String}

/-- A change that is refused leaves everything as it was. -/
theorem step_of_refused (h : x.Refused p.store) : p.step (.administer x) = p := by
  obtain ⟨error, herror⟩ := h
  rw [step, EntityChange.apply, herror]

/-- A change of entities keeps a client with its identity: only an update can replace it, and
that has compared the two. -/
theorem client_apply (h : s.client? clientId = some c) (x : EntityChange) :
    ∃ d, (x.apply s).client? clientId = some d ∧ c.SameIdentity d := by
  rw [EntityChange.apply]
  cases hresult : x.result s with
  | error error => exact ⟨c, h, .refl c⟩
  | ok t =>
    cases x with
    | createClient new =>
      obtain ⟨hnew, rfl⟩ := Store.createClient_eq_ok.mp hresult
      have hne : clientId ≠ new.clientId := by
        rintro rfl
        cases hnew.symm.trans h
      exact ⟨c, by rw [Store.client?_put, if_neg hne, h], .refl c⟩
    | updateClient new =>
      obtain ⟨⟨d, hd, hsame⟩, rfl⟩ := Store.updateClient_eq_ok.mp hresult
      by_cases hid : clientId = new.clientId
      · subst hid
        obtain rfl := Option.some.inj (h.symm.trans hd)
        refine ⟨new, by rw [Store.client?_put, if_pos rfl], ?_⟩
        exact ⟨hsame.clientId.symm, hsame.tenantId.symm, hsame.clientSecret.symm⟩
      · exact ⟨c, by rw [Store.client?_put, if_neg hid, h], .refl c⟩
    | grantScope g =>
      obtain rfl := Except.ok.inj hresult
      exact ⟨c, h, .refl c⟩
    | _ =>
      simp only [EntityChange.result, Store.createTenant, Store.updateTenant, Store.createUser,
        Store.createScope, Store.createSigningKey, Store.revokeSigningKey] at hresult
      split at hresult <;> cases hresult
      exact ⟨c, h, .refl c⟩

/-- An action keeps a client with its identity. -/
theorem client_step (h : p.store.client? clientId = some c) (a : Action) :
    ∃ d, (p.step a).store.client? clientId = some d ∧ c.SameIdentity d := by
  by_cases ha : .entities ∈ a.parts
  · cases a with
    | administer x => exact client_apply h x
    | _ => simp [Action.parts] at ha
  · have hclients := ((sameBut_step p a).entities ha).clients
    exact ⟨c, by rw [Store.client?, hclients, ← Store.client?, h], .refl c⟩

/-- A run keeps a client with its identity. -/
theorem client_exec (h : p.store.client? clientId = some c) (as : List Action) :
    ∃ d, (p.exec as).store.client? clientId = some d ∧ c.SameIdentity d := by
  induction as generalizing p c with
  | nil => exact ⟨c, h, .refl c⟩
  | cons a as ih =>
    obtain ⟨d, hd, hsame⟩ := client_step h a
    obtain ⟨e, he, hsame'⟩ := ih hd
    exact ⟨e, he, hsame.trans hsame'⟩

/-- In every run, a client that was added once is found ever after with the tenant and the
secret it was added with. A client is refused exactly when it would take the identifier of
another, or is none of the stored ones, or would change tenant or secret; a refusal leaves
everything as it was. An update of the settings of a stored client is always taken: that client
then has the settings that are given, its others, and the instant of the update, and nothing
else changes. -/
theorem client_fixed_for_life (p : Provider) :
    (∀ before after c t, (p.exec before).store.createClient c = .ok t →
      ∃ d, (p.exec (before ++ .administer (.createClient c) :: after)).store.client? c.clientId
          = some d ∧ d.tenantId = c.tenantId ∧ d.clientSecret = c.clientSecret) ∧
    (∀ as c, ((.createClient c : EntityChange).Refused (p.exec as).store ↔
        ∃ d, (p.exec as).store.client? c.clientId = some d) ∧
      ((.updateClient c : EntityChange).Refused (p.exec as).store ↔
        ∀ d, (p.exec as).store.client? c.clientId = some d →
          ¬ (d.tenantId = c.tenantId ∧ d.clientSecret = c.clientSecret)) ∧
      ∀ x : EntityChange, x.Refused (p.exec as).store →
        (p.exec as).step (.administer x) = p.exec as) ∧
    (∀ as c u now, (p.exec as).store.client? c.clientId = some c →
      ∃ t, (p.exec as).store.updateClient (c.applyUpdate u now) = .ok t ∧
        (∃ d, t.client? c.clientId = some d ∧ c.UpdatedBy u now d) ∧
        (∀ clientId, clientId ≠ c.clientId →
          t.client? clientId = (p.exec as).store.client? clientId) ∧
        t = { (p.exec as).store with clients := t.clients }) := by
  refine ⟨fun before after c t hadded => ?_, fun as c => ⟨EntityChange.refused_createClient, ?_,
    fun x => step_of_refused⟩, fun as c u now hc => Store.updateClient_applyUpdate hc u now⟩
  · have hstored : ((p.exec before).step (.administer (.createClient c))).store.client? c.clientId
        = some c := by
      have hresult : (EntityChange.createClient c).result (p.exec before).store = .ok t := hadded
      rw [step, EntityChange.apply, hresult, (Store.createClient_eq_ok.mp hadded).2,
        Store.client?_put, if_pos rfl]
    rw [exec_append, exec_cons]
    obtain ⟨d, hd, hsame⟩ := client_exec hstored after
    exact ⟨d, hd, hsame.tenantId, hsame.clientSecret⟩
  · rw [EntityChange.refused_updateClient]
    refine forall₂_congr fun d hd => not_congr ?_
    exact ⟨fun h => ⟨h.tenantId, h.clientSecret⟩,
      fun h => ⟨Table.key_of_get? hd, h.1, h.2⟩⟩

section

open ReplaySample

/-- The sample's client, moved to another tenant. -/
def movedClient : Client :=
  Client.create "C2" "secret-C2" "T2" .device (instant 0)

/-- A client that was added to a tenant cannot be moved to another one, and can be renamed. -/
theorem added_client_not_moved :
    let device := Client.create "C2" "secret-C2" "T1" .device (instant 0)
    let added := provider.exec [.administer (.createClient device)]
    let rename := { ClientUpdate.nothing with clientName := some "television" }
    (∃ d, (provider.exec ([] ++ .administer (.createClient device) ::
        [.administer (.updateClient movedClient)])).store.client? "C2" = some d ∧
      d.tenantId = "T1" ∧ d.clientSecret = "secret-C2") ∧
    (.updateClient movedClient : EntityChange).Refused added.store ∧
    added.step (.administer (.updateClient movedClient)) = added ∧
    ∃ t d, added.store.updateClient (device.applyUpdate rename (instant 1)) = .ok t ∧
      t.client? "C2" = some d ∧ device.UpdatedBy rename (instant 1) d ∧
      t.client? "C1" = added.store.client? "C1" := by
  intro device added rename
  have hfixed := client_fixed_for_life provider
  have hstored : added.store.client? device.clientId = some device := by decide
  have hrefused : (.updateClient movedClient : EntityChange).Refused added.store := by
    rw [(hfixed.2.1 [.administer (.createClient device)] movedClient).2.1]
    rintro d hd ⟨htenant, -⟩
    obtain rfl := Option.some.inj (hstored.symm.trans hd)
    exact absurd htenant (by decide)
  obtain ⟨t, ht, ⟨d, hd, hupdated⟩, hothers, -⟩ :=
    hfixed.2.2 [.administer (.createClient device)] device rename (instant 1) hstored
  refine ⟨?_, hrefused, ?_, t, d, ht, hd, hupdated, hothers "C1" (by decide)⟩
  · exact hfixed.1 [] [.administer (.updateClient movedClient)] device _
      (Store.createClient_eq_ok.mpr ⟨by decide, rfl⟩)
  · exact (hfixed.2.1 [.administer (.createClient device)] movedClient).2.2 _ hrefused

end

end Provider

end OpenIdProvider
