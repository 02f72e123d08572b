import OpenIdProvider.Proofs.Reports
import OpenIdProvider.Proofs.ScopeNarrowing

/-!
# What a refresh does to the store

A request to refresh ends in one of five ways (`Provider.RefreshOutcome`, `refresh_effect`), and the
grant that it presents is kept or lost accordingly: it is kept if it cannot be redeemed
(`Provider.Redeemable`) and if the provider fails while it issues tokens, and it is lost if
tokens are refused to the tenant, the client or the user (`Provider.Entitles`) and if they are
issued. Nothing else in the store changes, but that one new grant comes with the tokens while
the client may refresh once more.

Which failures put the grant back is decided by the errors of the issue: one that is not
entitled is refused in one way (`Op.issueEndUser_of_not_entitles`), and all others are the
provider's own (`Op.isServerError_of_issueEndUser`), for one of the causes of
`Provider.RefreshFailure`.
-/

namespace OpenIdProvider

open Op Provider

variable {p q : Provider} {g : RefreshGrant} {tenantId clientId userId scope : String}
  {refreshCount : Nat} {client : Client} {request : TokenRequest}

/-! ## Scopes of a refreshed grant -/

/-- The scope string of a refreshed grant: that of the grant, if the request names no scopes, or
the scopes that it names, if the grant has them all. -/
inductive RefreshGrant.Narrows (g : RefreshGrant) : Option String → String → Prop
  | none : Narrows g none g.scope
  | blank {requested : String} (h : Text.trim requested = "") : Narrows g (some requested) g.scope
  | named {requested : String} (h : Text.trim requested ≠ "")
      (hsubset : Scope.tokens (Text.trim requested) ⊆ Scope.tokens g.scope) :
      Narrows g (some requested) (Text.unwords (Scope.tokens (Text.trim requested)))

theorem narrowedScope_eq_ok {requested : Option String} :
    narrowedScope g requested = .ok scope ↔ g.Narrows requested scope := by
  cases requested with
  | none =>
    refine ⟨fun h => Except.ok.inj h ▸ .none, fun h => ?_⟩
    cases h
    rfl
  | some s =>
    by_cases hblank : Text.trim s = ""
    · have hfilter : ((some s).map Text.trim).filter (· ≠ "") = none := by simp [hblank]
      rw [narrowedScope, hfilter]
      refine ⟨fun h => Except.ok.inj h ▸ .blank hblank, fun h => ?_⟩
      cases h with
      | blank => rfl
      | named hne => exact absurd hblank hne
    · have hfilter : ((some s).map Text.trim).filter (· ≠ "") = some (Text.trim s) := by
        simp [hblank]
      rw [narrowedScope, hfilter]
      dsimp only
      cases hunknown : Scope.firstUnknown (Scope.tokens g.scope) (Text.trim s) with
      | none =>
        refine ⟨fun h => Except.ok.inj h ▸ .named hblank (Scope.firstUnknown_eq_none.mp hunknown),
          fun h => ?_⟩
        cases h with
        | blank h => exact absurd h hblank
        | named => rfl
      | some unknown =>
        refine ⟨fun h => (by cases h), fun h => ?_⟩
        cases h with
        | blank h => exact absurd h hblank
        | named _ hsubset =>
          cases (Scope.firstUnknown_eq_none.mpr hsubset).symm.trans hunknown

/-! ## Who is entitled to tokens -/

/-- Tokens may be issued to a user of a tenant for a client. -/
structure Provider.Entitles (p : Provider) (tenantId clientId userId : String) : Prop where
  tenant : ∃ tenant, p.store.tenant? tenantId = some tenant ∧ tenant.isActive = true
  client : ∃ client, p.store.client? clientId = some client ∧ client.tenantId = tenantId ∧
    client.enabled = true
  user : ∃ user, p.store.user? tenantId userId = some user ∧ user.enabled = true

theorem Provider.entitles_iff : p.Entitles tenantId clientId userId ↔
    (∃ t, p.store.activeTenant? tenantId = some t) ∧
      (∃ c, p.store.enabledClient? tenantId clientId = some c) ∧
      ∃ u, p.store.enabledUser? tenantId userId = some u := by
  simp only [Store.activeTenant?, Store.enabledClient?, Store.enabledUser?,
    Option.filter_eq_some_iff, Bool.and_eq_true, beq_iff_eq]
  exact ⟨fun h => ⟨h.tenant, h.client, h.user⟩, fun h => ⟨h.1, h.2.1, h.2.2⟩⟩

namespace Op

/-- Tokens are refused in one way to a tenant, a client or a user that is missing or may not
have them. -/
theorem issueEndUser_of_not_entitles (h : ¬p.Entitles tenantId clientId userId) (scope : String)
    (refreshCount : Nat) :
    (issueEndUser tenantId clientId userId scope refreshCount).run p
      = (.error (.refused .notPermitted), p) := by
  rw [entitles_iff] at h
  rw [issueEndUser]
  cases ht : p.store.activeTenant? tenantId with
  | none => exact run_bind_of_error (run_orRefuse_none ht _ p)
  | some t =>
    refine (run_bind_of_ok (run_orRefuse_some ht _ p)).trans ?_
    cases hc : p.store.enabledClient? tenantId clientId with
    | none => exact run_bind_of_error (run_orRefuse_none hc _ p)
    | some c =>
      refine (run_bind_of_ok (run_orRefuse_some hc _ p)).trans <|
        (run_bind_of_ok (run_provider p)).trans ?_
      cases hu : p.store.enabledUser? tenantId userId with
      | none => exact run_bind_of_error rfl
      | some u => exact absurd ⟨⟨t, ht⟩, ⟨c, hc⟩, u, hu⟩ h

/-- Once tenant, client and user are found, the current key is asked for, and only the provider
itself can fail. -/
theorem issueEndUser_of_entitles (h : p.Entitles tenantId clientId userId) (scope : String)
    (refreshCount : Nat) : ∃ rest : TokenKey → Op TokenResponse,
      (issueEndUser tenantId clientId userId scope refreshCount).run p
        = (currentKey >>= rest).run p ∧
      ∀ k, Reports ProtocolError.IsInternal (fun _ => True) (rest k) := by
  obtain ⟨⟨t, ht⟩, ⟨c, hc⟩, u, hu⟩ := entitles_iff.mp h
  have htenant : (activeTenant tenantId .notPermitted).run p = (.ok t, p) :=
    run_orRefuse_some ht _ p
  have hclient : (enabledClient tenantId clientId .notPermitted).run p = (.ok c, p) :=
    run_orRefuse_some hc _ p
  rw [issueEndUser, run_bind_of_ok htenant, run_bind_of_ok hclient,
    run_bind_of_ok (run_provider p), run_bind_of_ok (run_orRefuse_some hu _ p)]
  have hE (e : ProtocolError) (h : e.IsInternal) : e.IsInternal := h
  exact ⟨_, rfl, fun k => .bind .provider fun _ => .bind (reports_freshClaims hE ..) fun _ =>
    .bind (reports_sign hE ..) fun _ => .bind (reports_idToken hE ..) fun _ =>
      .bind (reports_refreshToken hE ..) fun _ => .pure _⟩

theorem isServerError_of_issueEndUser (h : p.Entitles tenantId clientId userId)
    {e : ProtocolError} (hrun : (issueEndUser tenantId clientId userId scope refreshCount).run p
      = (.error (.refused e), q)) : e.isServerError = true := by
  obtain ⟨rest, heq, hrest⟩ := issueEndUser_of_entitles h scope refreshCount
  rw [heq] at hrun
  have hreports : Reports ProtocolError.IsInternal (fun _ => True) (currentKey >>= rest) :=
    .bind (reports_currentKey (fun _ h => h) fun _ _ => trivial) hrest
  obtain ⟨e', he', hinternal⟩ := hreports.refused p _ (congrArg Prod.fst hrun)
  exact Fault.refused.inj he' ▸ hinternal

theorem issueEndUser_of_keyless (h : p.Entitles tenantId clientId userId) {f : Fault}
    (hkey : currentKey.run p = (.error f, q)) (scope : String) (refreshCount : Nat) :
    (issueEndUser tenantId clientId userId scope refreshCount).run p = (.error f, q) := by
  obtain ⟨rest, heq, -⟩ := issueEndUser_of_entitles h scope refreshCount
  rw [heq, run_bind_of_error hkey]

end Op

/-! ## Redemption -/

/-- A refresh grant that a request presents may be redeemed by a client, for tokens with a
scope. -/
structure Provider.Redeemable (p : Provider) (tenantId : String) (client : Client)
    (request : TokenRequest) (g : RefreshGrant) (scope : String) : Prop where
  presented : request.refreshToken = some g.refreshToken
  held : p.store.refreshGrants.find? p.now g.refreshToken = some g
  ofTenant : g.tenantId = tenantId
  ofClient : g.clientId = client.clientId
  limit : g.refreshCount < client.maxRefreshTokenCount
  scope : g.Narrows request.scope scope

namespace Provider

theorem redeemable_iff : p.Redeemable tenantId client request g scope ↔
    request.refreshToken = some g.refreshToken ∧
      refreshable? p tenantId client g.refreshToken = some g ∧
      narrowedScope g request.scope = .ok scope := by
  rw [refreshable?_eq_some, narrowedScope_eq_ok]
  exact ⟨fun h => ⟨h.presented, ⟨h.held, h.ofTenant, h.ofClient, h.limit⟩, h.scope⟩,
    fun ⟨hpresented, ⟨hheld, htenant, hclient, hlimit⟩, hscope⟩ =>
      ⟨hpresented, hheld, htenant, hclient, hlimit, hscope⟩⟩

/-- Why the provider fails to issue tokens for a refresh grant that a client has redeemed, with
the error. -/
inductive RefreshFailure (p : Provider) (client : Client) (g : RefreshGrant) :
    ProtocolError → Prop
  /-- The keys cannot be loaded. -/
  | loading {e : ProtocolError} (h : (loadedKeys.run p).1 = .error (.refused e)) :
      RefreshFailure p client g e
  /-- There is no key that has yet to expire. -/
  | noKey {l : LoadedKeys} (h : (loadedKeys.run p).1 = .ok l) (hnone : l.current? p.now = none) :
      RefreshFailure p client g .noSigningKey
  /-- The expiry of the access token is out of range. -/
  | lifetime {ttl : Int}
      (hlifetime : client.endUserTokenTtlSeconds.getD p.config.tokens.defaultTokenTtl = ttl)
      (hnone : p.after? ttl = none) : RefreshFailure p client g (.lifetimeOutOfRange ttl)
  /-- The key is too short to sign, or too long. -/
  | signing {k : TokenKey} (hkey : (currentKey.run p).1 = .ok k) (hsize : k.OutOfSize) :
      RefreshFailure p client g .cannotSign
  /-- The expiry of the next refresh token is out of range. -/
  | refreshLifetime {ttl : Int} (hlimit : g.refreshCount + 1 < client.maxRefreshTokenCount)
      (hlifetime : client.refreshTokenTtlSeconds.getD p.config.tokens.defaultRefreshTokenTtl = ttl)
      (hnone : p.after? ttl = none) : RefreshFailure p client g (.lifetimeOutOfRange ttl)
  /-- The handle of the next refresh token is that of another one. -/
  | handle {handle : String} (hlimit : g.refreshCount + 1 < client.maxRefreshTokenCount)
      (hheld : Records.find? p.now (p.store.refreshGrants.erase g.refreshToken) handle ≠ none) :
      RefreshFailure p client g (.storage (.duplicate (Expiring.kind RefreshGrant) handle))

/-- A store with other refresh grants. -/
def withGrants (p : Provider) (t : Records RefreshGrant) : Store :=
  { p.store with refreshGrants := t }

/-- What becomes of a request to refresh that leaves the store `s`. -/
inductive RefreshOutcome (p : Provider) (tenantId : String) (client : Client)
    (request : TokenRequest) (s : Store) : Except Fault TokenResponse → Prop
  /-- There is nothing to redeem, and nothing changes. -/
  | unredeemed {e : ProtocolError}
      (hnone : ∀ g scope, ¬p.Redeemable tenantId client request g scope)
      (he : e.isServerError = false) (hstore : s = p.store) :
      RefreshOutcome p tenantId client request s (.error (.refused e))
  /-- Tokens are refused, and the grant is gone. -/
  | unentitled {g : RefreshGrant} {scope : String}
      (hredeemable : p.Redeemable tenantId client request g scope)
      (hnot : ¬p.Entitles tenantId client.clientId g.userId)
      (hstore : s = p.withGrants (p.store.refreshGrants.erase g.refreshToken)) :
      RefreshOutcome p tenantId client request s (.error (.refused .notPermitted))
  /-- The provider fails, and the grants are as they were. -/
  | failed {g : RefreshGrant} {scope : String} {e : ProtocolError}
      (hredeemable : p.Redeemable tenantId client request g scope)
      (hentitled : p.Entitles tenantId client.clientId g.userId) (he : e.isServerError = true)
      (hcause : p.RefreshFailure client g e)
      (hstore : s = p.withGrants s.refreshGrants)
      (hkept : ∀ key, s.refreshGrants.get? key = p.store.refreshGrants.get? key) :
      RefreshOutcome p tenantId client request s (.error (.refused e))
  /-- Tokens are issued, the grant is gone, and a new one is there. -/
  | renewed {g g' : RefreshGrant} {scope : String} {response : TokenResponse}
      (hredeemable : p.Redeemable tenantId client request g scope)
      (hentitled : p.Entitles tenantId client.clientId g.userId)
      (hlimit : g.refreshCount + 1 < client.maxRefreshTokenCount)
      (htoken : response.refreshToken = some g'.refreshToken) (hparties : g'.SameParties g)
      (hcount : g'.refreshCount = g.refreshCount + 1) (hscope : g'.scope = scope)
      (hdrew : ∃ i, p.drawn ≤ i ∧ g'.refreshToken = handleText (p.random i))
      (hnew : Records.find? p.now (p.store.refreshGrants.erase g.refreshToken) g'.refreshToken
        = none)
      (hstore : s = p.withGrants ((p.store.refreshGrants.erase g.refreshToken).put g')) :
      RefreshOutcome p tenantId client request s (.ok response)
  /-- Tokens are issued for the last time, and the grant is gone. -/
  | spent {g : RefreshGrant} {scope : String} {response : TokenResponse}
      (hredeemable : p.Redeemable tenantId client request g scope)
      (hentitled : p.Entitles tenantId client.clientId g.userId)
      (hlimit : ¬g.refreshCount + 1 < client.maxRefreshTokenCount)
      (htoken : response.refreshToken = none)
      (hstore : s = p.withGrants (p.store.refreshGrants.erase g.refreshToken)) :
      RefreshOutcome p tenantId client request s (.ok response)

end Provider

namespace Op

/-- A grant that was taken is put back if the provider is at fault. -/
theorem run_restoreGrant_of_free (e : ProtocolError)
    (h : p.store.refreshGrants.find? p.now g.refreshToken = none) :
    (restoreGrant g (.refused e)).run p = (.error (.refused e),
      if e.isServerError then { p with store := p.withGrants (p.store.refreshGrants.put g) }
      else p) := by
  have hcreate : p.store.refreshGrants.create p.now g = .ok (p.store.refreshGrants.put g) :=
    Records.create_eq_ok.mpr ⟨h, rfl⟩
  rw [restoreGrant]
  split
  · rw [run_bind, run_tryCatch, run_createGrant, hcreate]
    rfl
  · rfl

/-- A grant that was taken and put back is where it was. -/
theorem get?_put_erase {t : Records RefreshGrant} (h : t.get? g.refreshToken = some g)
    (key : String) : ((t.erase g.refreshToken).put g).get? key = t.get? key := by
  rw [Table.get?_put, Table.get?_erase]
  split
  · rename_i hkey
    rw [hkey]
    exact h.symm
  · rename_i hkey
    exact if_neg hkey

/-- The answer to a token request is that of its kind of grant, which is then logged. -/
theorem run_grant_eq {kind : GrantType} (h : GrantType.ofName? request.grantType = some kind)
    (tenantId : String) (client : Client) (p : Provider) :
    ∃ q, (grant tenantId client request).run p
        = (((grantFor kind tenantId client request).run p).1, q) ∧
      SameBut [] ((grantFor kind tenantId client request).run p).2 q := by
  rw [grant, run_bind_of_ok (run_orRefuse_some h _ p), run_bind, run_tryCatch]
  rcases hrun : (grantFor kind tenantId client request).run p with ⟨(e | _) | response, q⟩
  · exact ⟨_, rfl, Touches.emit _ q⟩
  · exact ⟨_, rfl, .refl _ q⟩
  · exact ⟨_, rfl, Touches.emit _ q⟩

end Op

/-! ## The five ways -/

namespace Provider

/-- Tokens that were issued for a grant that was taken. -/
theorem refreshOutcome_of_issues (hredeemable : p.Redeemable tenantId client request g scope)
    (hstored : p.store.client? client.clientId = some client) {c : Client} {k : TokenKey}
    {response : TokenResponse}
    (h : (p.withoutGrant g.refreshToken).Issues
      (.endUser tenantId client.clientId g.userId scope (g.refreshCount + 1)) c k response q)
    (hissues : (p.withoutGrant g.refreshToken).IssuesTokens q
      (p.store.refreshGrants.erase g.refreshToken) tenantId client.clientId g.userId scope
      (g.refreshCount + 1) response) :
    p.RefreshOutcome tenantId client request q.store (.ok response) := by
  obtain rfl : c = client := Option.some.inj (h.permits.stored.symm.trans hstored)
  have hentitled : p.Entitles tenantId c.clientId g.userId :=
    ⟨h.permits.tenant, ⟨c, h.permits.stored, h.permits.bound, h.permits.enabled⟩,
      h.permits.admits⟩
  have hgrants := h.grants
  rw [Grants] at hgrants
  by_cases hlimit : g.refreshCount + 1 < c.maxRefreshTokenCount
  · rw [IssueCall.refreshLifetime?, if_pos hlimit] at hgrants
    obtain ⟨g', ⟨htenant, hclient, huser, hscope, hcount⟩, -, hnew, htoken, hstore⟩ := hgrants
    have hdrew : ∃ i, p.drawn ≤ i ∧ g'.refreshToken = handleText (p.random i) := by
      rcases hissues.refresh with ⟨hnone, -⟩ | ⟨g'', htoken', ⟨⟨i, hi, -, hdrew⟩, -⟩, -⟩
      · rw [hnone] at htoken
        cases htoken
      · exact ⟨i, hi, (Option.some.inj (htoken.symm.trans htoken')).trans hdrew⟩
    exact .renewed hredeemable hentitled hlimit htoken
      ⟨huser, htenant.trans hredeemable.ofTenant.symm, hclient.trans hredeemable.ofClient.symm⟩
      hcount hscope hdrew hnew hstore
  · rw [IssueCall.refreshLifetime?, if_neg hlimit] at hgrants
    exact .spent hredeemable hentitled hlimit hgrants.1 hgrants.2

/-- Which keys are in use does not depend on refresh grants. -/
theorem run_loadedKeys_withoutGrant (p : Provider) (token : String) :
    (loadedKeys.run (p.withoutGrant token)).1 = (loadedKeys.run p).1 := by
  have hload : (p.withoutGrant token).loadKeys = p.loadKeys := rfl
  rw [run_loadedKeys, run_loadedKeys, hload]
  dsimp only [withoutGrant]
  cases p.keys.filter fun l => l.isFresh p.now p.config.keyCacheTtl with
  | some l => rfl
  | none => cases p.loadKeys <;> rfl

theorem entitles_withoutGrant {token : String} :
    (p.withoutGrant token).Entitles tenantId clientId userId ↔
      p.Entitles tenantId clientId userId :=
  ⟨fun h => ⟨h.tenant, h.client, h.user⟩, fun h => ⟨h.tenant, h.client, h.user⟩⟩

/-- Where there is a key, a call that the provider declines to a user who is entitled to tokens
fails for the size of the key, an expiry or a handle. -/
theorem refreshFailure_of_key (hstored : p.store.client? client.clientId = some client)
    (hentitled : p.Entitles tenantId client.clientId g.userId) {k : TokenKey}
    (hkey : (currentKey.run p).1 = .ok k)
    (hcurrent : (currentKey.run (p.withoutGrant g.refreshToken)).1 = .ok k) {e : ProtocolError}
    (hdeclines : (p.withoutGrant g.refreshToken).Declines
      (.endUser tenantId client.clientId g.userId scope (g.refreshCount + 1)) e) :
    p.RefreshFailure client g e := by
  -- The client of a permitted call is the one that is stored, and its key the current one.
  have hparties {c : Client} {k' : TokenKey} (hpermits : (p.withoutGrant g.refreshToken).Permits
      (.endUser tenantId client.clientId g.userId scope (g.refreshCount + 1)) c k') :
      c = client ∧ k' = k :=
    ⟨Option.some.inj (hpermits.stored.symm.trans hstored),
      Except.ok.inj (hpermits.key.symm.trans hcurrent)⟩
  cases hdeclines with
  | notPermitted hnot =>
    obtain ⟨c, hc, hbound, henabled⟩ := hentitled.client
    obtain rfl : c = client := Option.some.inj (hc.symm.trans hstored)
    exact absurd ⟨hentitled.tenant, hstored, hbound, henabled, hentitled.user, hcurrent⟩ (hnot c k)
  | lifetime hpermits hrange =>
    obtain ⟨rfl, -⟩ := hparties hpermits
    exact .lifetime rfl hrange
  | signing hpermits hrange hsize =>
    obtain ⟨-, rfl⟩ := hparties hpermits
    exact .signing hkey hsize
  | refreshLifetime hpermits hrange hrefresh hnone =>
    obtain ⟨rfl, -⟩ := hparties hpermits
    obtain ⟨hlimit, hlifetime⟩ := Option.ite_none_right_eq_some.mp hrefresh
    exact .refreshLifetime hlimit (Option.some.inj hlifetime) hnone
  | handle hpermits hrange hrefresh hsome hheld =>
    obtain ⟨rfl, -⟩ := hparties hpermits
    exact .handle (Option.ite_none_right_eq_some.mp hrefresh).1 hheld

/-- A call that the provider declines to a user who is entitled to tokens fails for one of the
causes of a failure. -/
theorem refreshFailure_of_declines (hstored : p.store.client? client.clientId = some client)
    (hentitled : p.Entitles tenantId client.clientId g.userId) {e : ProtocolError}
    (h : (issueEndUser tenantId client.clientId g.userId scope (g.refreshCount + 1)).run
      (p.withoutGrant g.refreshToken) = (.error (.refused e), q))
    (hdeclines : (p.withoutGrant g.refreshToken).Declines
      (.endUser tenantId client.clientId g.userId scope (g.refreshCount + 1)) e) :
    p.RefreshFailure client g e := by
  have hentitled' : (p.withoutGrant g.refreshToken).Entitles tenantId client.clientId g.userId :=
    entitles_withoutGrant.mpr hentitled
  have hloaded := run_loadedKeys_withoutGrant p g.refreshToken
  rcases hl : loadedKeys.run (p.withoutGrant g.refreshToken) with ⟨f | l, r⟩
  · have hfails := issueEndUser_of_keyless hentitled' (run_currentKey_of_error hl) scope
      (g.refreshCount + 1)
    obtain rfl := Except.error.inj (Prod.mk.inj (hfails.symm.trans h)).1
    exact .loading (hloaded.symm.trans (congrArg Prod.fst hl))
  · have hloaded : (loadedKeys.run p).1 = .ok l := hloaded.symm.trans (congrArg Prod.fst hl)
    have hcurrent := run_currentKey hl
    cases hkey : l.current? (p.withoutGrant g.refreshToken).now with
    | none =>
      rw [hkey] at hcurrent
      have hfails := issueEndUser_of_keyless hentitled' hcurrent scope (g.refreshCount + 1)
      obtain ⟨rfl⟩ := Fault.refused.inj (Except.error.inj (Prod.mk.inj (hfails.symm.trans h)).1)
      exact .noKey hloaded hkey
    | some k =>
      rw [hkey] at hcurrent
      refine refreshFailure_of_key hstored hentitled ?_ (congrArg Prod.fst hcurrent) hdeclines
      rw [run_currentKey (Prod.ext hloaded rfl : loadedKeys.run p = (.ok l, _)),
        show l.current? p.now = some k from hkey]

/-- Tokens that were not issued for a grant that was taken. -/
theorem refreshOutcome_of_refusal (hredeemable : p.Redeemable tenantId client request g scope)
    (hstored : p.store.client? client.clientId = some client)
    {e : ProtocolError} (h : (issueEndUser tenantId client.clientId g.userId scope
      (g.refreshCount + 1)).run (p.withoutGrant g.refreshToken) = (.error (.refused e), q))
    (hdeclines : (p.withoutGrant g.refreshToken).Declines
      (.endUser tenantId client.clientId g.userId scope (g.refreshCount + 1)) e)
    (hsame : SameBut [.keys] (p.withoutGrant g.refreshToken) q) :
    p.RefreshOutcome tenantId client request ((restoreGrant g (.refused e)).run q).2.store
      ((restoreGrant g (.refused e)).run q).1 := by
  have hget : p.store.refreshGrants.get? g.refreshToken = some g :=
    (Records.find?_eq_some.mp hredeemable.held).1
  -- No other grant has come to stand where the one that was taken stood.
  have hfree : q.store.refreshGrants.find? q.now g.refreshToken = none := by
    refine Records.find?_of_get? ?_ q.now
    rw [hsame.store_eq, withoutGrant, Table.get?_erase, if_pos rfl]
  rw [run_restoreGrant_of_free e hfree]
  by_cases hentitled : p.Entitles tenantId client.clientId g.userId
  · have he := isServerError_of_issueEndUser (entitles_withoutGrant.mpr hentitled) h
    rw [if_pos he, withGrants, hsame.store_eq]
    exact .failed hredeemable hentitled he (refreshFailure_of_declines hstored hentitled h hdeclines)
      rfl (get?_put_erase hget)
  · have hnot : ¬(p.withoutGrant g.refreshToken).Entitles tenantId client.clientId g.userId :=
      mt entitles_withoutGrant.mp hentitled
    have hrefused := issueEndUser_of_not_entitles hnot scope (g.refreshCount + 1)
    obtain ⟨he, rfl⟩ := Prod.mk.inj (hrefused.symm.trans h)
    obtain rfl := Fault.refused.inj (Except.error.inj he)
    exact .unentitled hredeemable hentitled rfl

end Provider

/-- Every request to refresh, of a client as it is stored, ends in one of five ways. -/
theorem refresh_effect (hgrant : request.grantType = "refresh_token")
    (hstored : p.store.client? client.clientId = some client) (tenantId : String) :
    ∃ answer q, (grant tenantId client request).run p = (answer, q) ∧
      p.RefreshOutcome tenantId client request q.store answer := by
  have hkind : GrantType.ofName? request.grantType = some .refreshToken := by
    rw [hgrant]
    rfl
  -- Beside the answer to its kind of grant a request leaves nothing but a line in the log.
  obtain ⟨q, hrun, hlogged⟩ := run_grant_eq hkind tenantId client p
  refine ⟨_, q, hrun, ?_⟩
  rw [(hlogged.mono (List.nil_subset [.keys])).store_eq, grantFor]
  rcases run_grantForRefresh p tenantId client request with
    ⟨hnone, e, he, hrefused⟩ | ⟨g, scope, hpresented, hg, hscope, htaken⟩
  · rw [hrefused]
    refine .unredeemed (fun g scope h => ?_) he rfl
    obtain ⟨hpresented, hg, hscope⟩ := redeemable_iff.mp h
    exact hnone g scope hpresented hg hscope
  · have hredeemable := redeemable_iff.mpr ⟨hpresented, hg, hscope⟩
    rw [htaken, run_tryCatch]
    rcases ends_issueEndUser tenantId client.clientId g.userId scope (g.refreshCount + 1)
      (p.withoutGrant g.refreshToken) with
        ⟨e, r, hissue, hsame, hdeclines⟩ | ⟨response, r, hissue, c, k, hissues⟩
    · rw [hissue]
      exact refreshOutcome_of_refusal hredeemable hstored hissue hdeclines hsame
    · rw [hissue]
      exact refreshOutcome_of_issues hredeemable hstored hissues
        (issuesTokens_of_issueEndUser hissue)

namespace RefreshSample

/-- The provider holds a refresh grant, and has no key. -/
def keyless : Provider :=
  { provider.exec opening with keys := none }

/-- The request that presents it. -/
def renewal : TokenRequest :=
  { tokenRequest .refreshToken with refreshToken := some token }

/-- Whether the provider itself failed. -/
def isFailure : Except Fault TokenResponse → Bool
  | .error (.refused e) => e.isServerError
  | _ => false

end RefreshSample

open RefreshSample in
/-- A client that refreshes in vain, because there is no key, keeps its grant. -/
theorem keyless_refresh_keeps_grant :
    renewal.grantType = "refresh_token" ∧
      keyless.store.client? RefreshSample.client.clientId = some RefreshSample.client ∧
      (keyless.store.refreshGrants.get? token).isSome ∧
      ((grant "T1" RefreshSample.client renewal).run keyless).2.store.refreshGrants.get? token
        = keyless.store.refreshGrants.get? token := by
  have hgrant : renewal.grantType = "refresh_token" := rfl
  have hstored : keyless.store.client? RefreshSample.client.clientId
      = some RefreshSample.client := by decide +kernel
  have hfails : isFailure ((grant "T1" RefreshSample.client renewal).run keyless).1 = true := by
    decide +kernel
  refine ⟨hgrant, hstored, by decide +kernel, ?_⟩
  obtain ⟨answer, q, hrun, heffect⟩ := refresh_effect hgrant hstored "T1"
  rw [hrun] at hfails ⊢
  cases heffect with
  | unredeemed _ he => exact absurd (he.symm.trans hfails) nofun
  | unentitled => cases hfails
  | failed _ _ _ _ _ hkept => exact hkept token
  | renewed => cases hfails
  | spent => cases hfails

end OpenIdProvider
