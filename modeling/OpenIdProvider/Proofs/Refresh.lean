import OpenIdProvider.Proofs.CodeBinding
import OpenIdProvider.Proofs.TokenLifetime

/-!
# Refresh grants

A refresh grant is stored when tokens for a user are issued, and its handle is drawn then
(`Stores`). It leaves its table when it is redeemed, revoked or purged, and one that is put
back after a failure is the one that was taken. So an action brings a grant only by storing
it under a new handle (`refreshGrants_step`).

* `IssuesTokens`: what comes with tokens for a user;
* `RedeemsCode`, `RedeemsGrant`: what is asked for, and given, when a token request is
  answered (`redeems_of_answer`);
* `grant_of_exec`: what a refresh token stands for never changes.
-/

namespace OpenIdProvider

open Op Provider

variable {α β : Type} {p q r : Provider} {a : Action} {as : List Action}

/-! ## Operations that fail -/

namespace Op

/-- Whether an operation that fails has brought no refresh grant. -/
def BringsNone (x : Op α) : Prop :=
  ∀ p e q key g, x.run p = (.error e, q) → q.store.refreshGrants.get? key = some g →
    p.store.refreshGrants.get? key = some g

namespace BringsNone

variable {x : Op α} {f : α → Op β}

theorem of_touches (ps : List Part) (h : Touches ps x) (hps : .refreshGrants ∉ ps) :
    BringsNone x := by
  intro p e q key g hrun hget
  have hsame := (h p).refreshGrants hps
  rw [hrun] at hsame
  rwa [← hsame]

/-- The first part of a sequence may do anything else. -/
theorem bind (ps : List Part) (hx : Touches ps x) (hps : .refreshGrants ∉ ps)
    (hf : ∀ a, BringsNone (f a)) : BringsNone (x >>= f) := by
  intro p e q key g hrun hget
  have hsame := (hx p).refreshGrants hps
  rw [run_bind] at hrun
  rcases hr : x.run p with ⟨e' | a, r⟩
  · rw [hr] at hrun hsame
    obtain ⟨-, rfl⟩ := Prod.mk.inj hrun
    rwa [← hsame]
  · rw [hr] at hrun hsame
    rw [← hsame]
    exact hf a r e q key g hrun hget

/-- The second part of a sequence may be one that cannot fail. -/
theorem bind_ok (hx : BringsNone x) (hf : ∀ a r, ∃ b s, (f a).run r = (.ok b, s)) :
    BringsNone (x >>= f) := by
  intro p e q key g hrun hget
  rw [run_bind] at hrun
  rcases hr : x.run p with ⟨e' | a, r⟩
  · rw [hr] at hrun
    obtain ⟨-, rfl⟩ := Prod.mk.inj hrun
    exact hx p e' r key g hr hget
  · rw [hr] at hrun
    obtain ⟨b, s, hs⟩ := hf a r
    cases (Prod.mk.inj (hs.symm.trans hrun)).1

theorem tryCatch {f : Fault → Op α} (ps : List Part) (hx : BringsNone x)
    (hf : ∀ e, Touches ps (f e)) (hps : .refreshGrants ∉ ps) :
    BringsNone (MonadExcept.tryCatch x f) := by
  intro p e q key g hrun hget
  rw [run_tryCatch] at hrun
  rcases hr : x.run p with ⟨e' | a, r⟩
  · rw [hr] at hrun
    have hsame := (hf e' r).refreshGrants hps
    rw [show (f e').run r = (.error e, q) from hrun] at hsame
    exact hx p e' r key g hr (hsame ▸ hget)
  · rw [hr] at hrun
    cases (Prod.mk.inj hrun).1

end BringsNone

theorem run_createGrant (g : RefreshGrant) (p : Provider) :
    (createRecord g).run p = match p.store.refreshGrants.create p.now g with
      | .ok t => (.ok (), { p with store := { p.store with refreshGrants := t } })
      | .error e => (.error (.refused (.storage e)), p) := by
  rw [run_createRecord,
    show (Kept.records p.store : Records RefreshGrant) = p.store.refreshGrants from rfl]
  cases p.store.refreshGrants.create p.now g <;> rfl

theorem createGrant_eq_ok {g : RefreshGrant} {u : Unit}
    (h : (createRecord g).run p = (.ok u, q)) :
    p.store.refreshGrants.create p.now g = .ok q.store.refreshGrants := by
  rw [run_createGrant] at h
  cases hc : p.store.refreshGrants.create p.now g with
  | ok t =>
    rw [hc] at h
    obtain ⟨-, rfl⟩ := Prod.mk.inj h
    rfl
  | error e =>
    rw [hc] at h
    cases (Prod.mk.inj h).1

theorem bringsNone_createGrant (g : RefreshGrant) : BringsNone (createRecord g) := by
  intro p e q key x hrun hget
  rw [run_createGrant] at hrun
  cases hc : p.store.refreshGrants.create p.now g with
  | ok t =>
    rw [hc] at hrun
    cases (Prod.mk.inj hrun).1
  | error e' =>
    rw [hc] at hrun
    obtain ⟨-, rfl⟩ := Prod.mk.inj hrun
    exact hget

theorem bringsNone_refreshToken (client : Client) (tenantId userId scope : String)
    (refreshCount : Nat) :
    BringsNone (refreshToken client tenantId userId scope refreshCount) := by
  rw [refreshToken]
  split
  · exact .bind [] .freshHandle (by decide) fun _ =>
      .bind [] .provider (by decide) fun _ =>
        .bind _ (touches_expiry _) (by decide) fun _ =>
          .bind_ok (bringsNone_createGrant _) fun _ _ => ⟨_, _, rfl⟩
  · exact .of_touches [] (.pure _) (by decide)

/-- The refresh grant is stored last. -/
theorem bringsNone_issueEndUser (tenantId clientId userId scope : String) (refreshCount : Nat) :
    BringsNone (issueEndUser tenantId clientId userId scope refreshCount) :=
  .bind _ (touches_activeTenant _ _) (by decide) fun _ =>
    .bind _ (touches_enabledClient _ _ _) (by decide) fun _ =>
      .bind [] .provider (by decide) fun _ =>
        .bind [] (.orRefuse _ _) (by decide) fun _ =>
          .bind _ touches_currentKey (by decide) fun _ =>
            .bind [] .provider (by decide) fun _ =>
              .bind _ (touches_freshClaims _ _ _ _ _) (by decide) fun _ =>
                .bind _ (touches_sign _ _) (by decide) fun _ =>
                  .bind _ (touches_idToken _ _) (by decide) fun _ =>
                    .bind_ok (bringsNone_refreshToken _ _ _ _ _) fun _ _ => ⟨_, _, rfl⟩

end Op

/-! ## What comes with tokens for a user -/

/-- Two refresh grants are of one user to one client in one tenant. -/
def RefreshGrant.SameParties (g g' : RefreshGrant) : Prop :=
  g.userId = g'.userId ∧ g.tenantId = g'.tenantId ∧ g.clientId = g'.clientId

theorem RefreshGrant.SameParties.refl (g : RefreshGrant) : g.SameParties g :=
  ⟨rfl, rfl, rfl⟩

theorem RefreshGrant.SameParties.symm {g g' : RefreshGrant} (h : g.SameParties g') :
    g'.SameParties g :=
  ⟨h.1.symm, h.2.1.symm, h.2.2.symm⟩

theorem RefreshGrant.SameParties.trans {g g' g'' : RefreshGrant} (h : g.SameParties g')
    (h' : g'.SameParties g'') : g.SameParties g'' :=
  ⟨h.1.trans h'.1, h.2.1.trans h'.2.1, h.2.2.trans h'.2.2⟩

/-- A refresh grant was stored in a step from `p` to `q`, beside the grants `kept`: under a
handle that was drawn in the step, for a client that may refresh once more. -/
structure Provider.Brings (p q : Provider) (kept : Records RefreshGrant) (g : RefreshGrant) :
    Prop where
  drew : p.Drew q g.refreshToken
  limit : ∃ client, p.store.client? g.clientId = some client ∧
    g.refreshCount < client.maxRefreshTokenCount
  created : kept.create p.now g = .ok q.store.refreshGrants

/-- The access token of an answer is one for an end user, with the scope of the answer. -/
structure TokenResponse.Carries (r : TokenResponse) (scope : String) : Prop where
  scope_eq : r.scope = if scope = "" then none else some scope
  signed : ∃ (k : TokenKey) (c : TokenClaims), (k.sign? c).map Jws.text = some r.accessToken ∧
    c.InRange ∧ c.tokenType = .endUser ∧ c.scope = r.scope

/-- Tokens for a user with a scope were issued in a step from `p` to `q`, which keeps the
grants `kept`. -/
structure Provider.IssuesTokens (p q : Provider) (kept : Records RefreshGrant)
    (tenantId clientId userId scope : String) (refreshCount : Nat) (r : TokenResponse) :
    Prop where
  carries : r.Carries scope
  refresh : (r.refreshToken = none ∧ q.store.refreshGrants = kept) ∨
    ∃ g, r.refreshToken = some g.refreshToken ∧ p.Brings q kept g ∧ g.tenantId = tenantId ∧
      g.clientId = clientId ∧ g.userId = userId ∧ g.scope = scope ∧ g.refreshCount = refreshCount

namespace Provider

/-- Grants that were brought in the middle of a step were brought in the step. -/
theorem Brings.within {p₁ q₁ : Provider} {ps : List Part} {kept : Records RefreshGrant}
    {g : RefreshGrant} (h : p₁.Brings q₁ kept g) (hbefore : SameBut ps p p₁)
    (hafter : SameBut [] q₁ q) (hclock : .clock ∉ ps) (hentities : .entities ∉ ps) :
    p.Brings q kept g := by
  obtain ⟨client, hclient, hlimit⟩ := h.limit
  refine ⟨h.drew.mono hbefore.random hbefore.drawn hafter.drawn, ⟨client, ?_, hlimit⟩, ?_⟩
  · rwa [Store.client?, ← (hbefore.entities hentities).clients]
  · rw [← hbefore.now hclock, h.created, hafter.refreshGrants List.not_mem_nil]

theorem Brings.get?_eq {kept : Records RefreshGrant} {g : RefreshGrant}
    (h : p.Brings q kept g) : q.store.refreshGrants.get? g.refreshToken = some g := by
  rw [Records.get?_of_create h.created]
  exact if_pos rfl

theorem IssuesTokens.within {p₁ q₁ : Provider} {ps : List Part} {kept : Records RefreshGrant}
    {tenantId clientId userId scope : String} {refreshCount : Nat} {r : TokenResponse}
    (h : p₁.IssuesTokens q₁ kept tenantId clientId userId scope refreshCount r)
    (hbefore : SameBut ps p p₁) (hafter : SameBut [] q₁ q) (hclock : .clock ∉ ps)
    (hentities : .entities ∉ ps) :
    p.IssuesTokens q kept tenantId clientId userId scope refreshCount r := by
  refine ⟨h.carries, ?_⟩
  rcases h.refresh with ⟨hnone, hkept⟩ | ⟨g, hg, hbrings, hfields⟩
  · exact .inl ⟨hnone, (hafter.refreshGrants List.not_mem_nil).trans hkept⟩
  · exact .inr ⟨g, hg, hbrings.within hbefore hafter hclock hentities, hfields⟩

/-- What is held after tokens were issued was kept, or came with them. -/
theorem IssuesTokens.get? {kept : Records RefreshGrant}
    {tenantId clientId userId scope : String} {refreshCount : Nat} {r : TokenResponse}
    (h : p.IssuesTokens q kept tenantId clientId userId scope refreshCount r) {key : String}
    {g : RefreshGrant} (hget : q.store.refreshGrants.get? key = some g) :
    kept.get? key = some g ∨ (r.refreshToken = some key ∧ p.Brings q kept g ∧
      g.tenantId = tenantId ∧ g.clientId = clientId ∧ g.userId = userId ∧ g.scope = scope ∧
      g.refreshCount = refreshCount) := by
  rcases h.refresh with ⟨-, hkept⟩ | ⟨g', hg', hbrings, hfields⟩
  · rw [hkept] at hget
    exact .inl hget
  · rw [Records.get?_of_create hbrings.created] at hget
    split at hget
    · rename_i hkey
      obtain rfl := Option.some.inj hget
      exact .inr ⟨hkey ▸ hg', hbrings, hfields⟩
    · exact .inl hget

end Provider

namespace Op

variable {tenantId clientId userId scope : String} {refreshCount : Nat} {response : TokenResponse}

theorem brings_of_refreshToken {client : Client} {token : Option String}
    (hclient : p.store.client? client.clientId = some client)
    (h : (refreshToken client tenantId userId scope refreshCount).run p = (.ok token, q)) :
    (token = none ∧ q.store.refreshGrants = p.store.refreshGrants) ∨
      ∃ g, token = some g.refreshToken ∧ p.Brings q p.store.refreshGrants g ∧
        g.tenantId = tenantId ∧ g.clientId = client.clientId ∧ g.userId = userId ∧
        g.scope = scope ∧ g.refreshCount = refreshCount := by
  rw [refreshToken] at h
  split at h
  · rename_i hlimit
    obtain ⟨handle, p₁, hhandle, h⟩ := bind_eq_ok.mp h
    obtain ⟨s, p₂, hs, h⟩ := bind_eq_ok.mp h
    obtain ⟨expiresAt, p₃, hexpiry, h⟩ := bind_eq_ok.mp h
    obtain ⟨_, p₄, hcreate, h⟩ := bind_eq_ok.mp h
    obtain ⟨htoken, rfl⟩ := Prod.mk.inj h
    obtain rfl := Except.ok.inj htoken
    rw [run_freshHandle] at hhandle
    obtain ⟨hdrawn, rfl⟩ := Prod.mk.inj hhandle
    obtain rfl := Except.ok.inj hdrawn
    have hrest : SameBut [] { p with drawn := p.drawn + 1 } p₃ :=
      (Touches.provider.sameBut_run hs).trans ((touches_expiry _).sameBut_run hexpiry)
    have hlast : p₃.drawn ≤ p₄.drawn :=
      ((Touches.createRecord keptIn_refreshGrants _).sameBut_run hcreate).drawn
    have hcreated := createGrant_eq_ok hcreate
    rw [hrest.refreshGrants List.not_mem_nil, hrest.now List.not_mem_nil] at hcreated
    exact .inr ⟨_, rfl, ⟨⟨p.drawn, Nat.le_refl _, Nat.lt_of_lt_of_le (Nat.lt_succ_self _)
      (Nat.le_trans hrest.drawn hlast), rfl⟩, ⟨client, hclient, hlimit⟩, hcreated⟩,
      rfl, rfl, rfl, rfl, rfl⟩
  · obtain ⟨htoken, rfl⟩ := Prod.mk.inj h
    exact .inl ⟨(Except.ok.inj htoken).symm, rfl⟩

/-- Tokens for a user are issued with the scope and the count that were asked for. -/
theorem issuesTokens_of_issueEndUser
    (h : (issueEndUser tenantId clientId userId scope refreshCount).run p = (.ok response, q)) :
    p.IssuesTokens q p.store.refreshGrants tenantId clientId userId scope refreshCount
      response := by
  obtain ⟨client, user, k, c, p₁, p₂, p₃, p₄, hclient, huser, hk, hc, haccess, hid, hrefresh, -,
    hscope⟩ := steps_of_issueEndUser h
  obtain ⟨hstored, -⟩ := Option.filter_eq_some_iff.mp hclient
  obtain rfl : client.clientId = clientId := Table.key_of_get? hstored
  obtain rfl : user.userId = userId :=
    congrArg Prod.snd (Table.key_of_get? (Option.filter_eq_some_iff.mp huser).1)
  have hsigned : SameBut [] p₁ p₄ := ((touches_freshClaims _ _ _ _ _).sameBut_run hc).trans <|
    ((touches_sign _ _).sameBut_run haccess).trans ((touches_idToken _ _).sameBut_run hid)
  have hbefore : SameBut [.keys] p p₄ :=
    (touches_currentKey.sameBut_run hk).trans (hsigned.mono (List.nil_subset _))
  refine ⟨⟨hscope, k, _, sign_eq_ok haccess, ?_, ?_, hscope.symm⟩, ?_⟩
  · exact (((madeAt_of_freshClaims hc).1.withUser user).withScope scope).inRange
  · exact ((madeAt_of_freshClaims hc).2 :)
  · have hclient₄ : p₄.store.client? client.clientId = some client := by
      rw [hbefore.store_eq]
      exact hstored
    rcases brings_of_refreshToken hclient₄ hrefresh with ⟨hnone, hsame⟩ | ⟨g, hg, hbrings, hfields⟩
    · exact .inl ⟨hnone, hsame.trans (hbefore.refreshGrants (by decide))⟩
    · rw [hbefore.refreshGrants (by decide)] at hbrings
      exact .inr ⟨g, hg, hbrings.within hbefore (.refl _ _) (by decide) (by decide), hfields⟩

end Op

/-! ## Token requests -/

namespace Provider

/-- The state after a refresh grant was taken. -/
def withoutGrant (p : Provider) (token : String) : Provider :=
  { p with store := { p.store with refreshGrants := p.store.refreshGrants.erase token } }

theorem get?_of_withoutGrant {token key : String} {g : RefreshGrant}
    (h : (p.withoutGrant token).store.refreshGrants.get? key = some g) :
    p.store.refreshGrants.get? key = some g := by
  rw [withoutGrant, Table.get?_erase] at h
  split at h
  · cases h
  · exact h

end Provider

/-- The refresh token that a token request presents. -/
def TokenRequest.presentedGrant? (r : TokenRequest) : Option String :=
  if r.grantType = "refresh_token" then r.refreshToken else none

namespace Action

/-- The refresh token that an action presents to get tokens for it. -/
def presentedGrant? : Action → Option String
  | grant _ _ r => r.presentedGrant?
  | _ => none

/-- The answer to a token request. -/
def answer? (p : Provider) : Action → Option TokenResponse
  | grant tenantId client r => ((Op.grant tenantId client r).run p).1.toOption
  | _ => none

/-- The refresh grant that comes with the answer to a token request. -/
def handedOut? (p : Provider) (a : Action) : Option RefreshGrant :=
  (a.answer? p).bind fun r => r.refreshToken.bind (p.step a).store.refreshGrants.get?

end Action

theorem answer?_grant {tenantId : String} {client : Client} {request : TokenRequest}
    {response : TokenResponse} :
    (Action.grant tenantId client request).answer? p = some response ↔
      ((grant tenantId client request).run p).1 = .ok response := by
  rw [Action.answer?]
  cases ((grant tenantId client request).run p).1 <;> simp [Except.toOption]

/-- A token request that is answered for a code. -/
structure RedeemsCode (p : Provider) (a : Action) (c : AuthorizationCode) (r : TokenResponse) :
    Prop where
  answered : a.answer? p = some r
  redeems : ∃ client request redirectUri, a = .grant c.tenantId client request ∧
    Redeems p c.tenantId client.clientId c.code (some redirectUri) request.codeVerifier c
  presented : a.presentedCode? = some c.code ∧ a.presentedGrant? = none
  issues : p.IssuesTokens (p.step a) p.store.refreshGrants c.tenantId c.clientId c.userId c.scope 0
    r

/-- A token request that is answered for a refresh grant. -/
structure RedeemsGrant (p : Provider) (a : Action) (g : RefreshGrant) (r : TokenResponse) :
    Prop where
  answered : a.answer? p = some r
  held : p.store.refreshGrants.find? p.now g.refreshToken = some g
  presented : a.presentedGrant? = some g.refreshToken ∧ a.presentedCode? = none
  redeems : ∃ client request scope, a = .grant g.tenantId client request ∧
    refreshable? p g.tenantId client g.refreshToken = some g ∧
    narrowedScope g request.scope = .ok scope ∧
    p.IssuesTokens (p.step a) (p.store.refreshGrants.erase g.refreshToken) g.tenantId g.clientId
      g.userId scope (g.refreshCount + 1) r

theorem RedeemsCode.held {c : AuthorizationCode} {r : TokenResponse} (h : RedeemsCode p a c r) :
    p.store.codes.get? c.code = some c := by
  obtain ⟨client, request, redirectUri, -, hredeems⟩ := h.redeems
  exact (Records.find?_eq_some.mp hredeems.held).1

theorem RedeemsGrant.get?_eq {g : RefreshGrant} {r : TokenResponse} (h : RedeemsGrant p a g r) :
    p.store.refreshGrants.get? g.refreshToken = some g :=
  (Records.find?_eq_some.mp h.held).1

namespace Op

variable {tenantId : String} {client : Client} {request : TokenRequest} {response : TokenResponse}

/-- What a client may redeem is held for it, and below its limit. -/
theorem refreshable?_eq_some {token : String} {g : RefreshGrant} :
    refreshable? p tenantId client token = some g ↔
      p.store.refreshGrants.find? p.now token = some g ∧ g.tenantId = tenantId ∧
        g.clientId = client.clientId ∧ g.refreshCount < client.maxRefreshTokenCount := by
  simp only [refreshable?, Option.filter_eq_some_iff, Bool.and_eq_true, beq_iff_eq,
    decide_eq_true_eq, and_assoc]

theorem presentedGrant?_of_refreshToken
    (h : GrantType.ofName? request.grantType = some .refreshToken) :
    request.presentedGrant? = request.refreshToken := by
  rw [GrantType.ofName?] at h
  have hname := List.find?_some h
  have heq : request.grantType = "refresh_token" := (beq_iff_eq.mp hname).symm
  rw [TokenRequest.presentedGrant?, if_pos heq]

theorem presentedGrant?_of_ne_refreshToken
    (h : GrantType.ofName? request.grantType ≠ some .refreshToken) :
    request.presentedGrant? = none := by
  rw [TokenRequest.presentedGrant?, if_neg]
  intro he
  exact h (by rw [he]; rfl)

/-- Tokens for a code are issued for the user and with the scope of the code. -/
theorem redeems_of_grantForCode
    (h : (grantForCode tenantId client request).run p = (.ok response, q)) :
    ∃ c redirectUri, request.code = some c.code ∧ request.redirectUri = some redirectUri ∧
      Redeems p tenantId client.clientId c.code (some redirectUri) request.codeVerifier c ∧
      p.IssuesTokens q p.store.refreshGrants tenantId client.clientId c.userId c.scope 0
        response := by
  rw [grantForCode] at h
  obtain ⟨code, p₁, h₁, h⟩ := bind_eq_ok.mp h
  obtain ⟨redirectUri, p₂, h₂, h⟩ := bind_eq_ok.mp h
  obtain ⟨c, p₃, h₃, hissue⟩ := bind_eq_ok.mp h
  obtain ⟨hcode, rfl⟩ := orRefuse_eq_ok.mp h₁
  obtain ⟨huri, rfl⟩ := orRefuse_eq_ok.mp h₂
  have hsame := (touches_redeem _ _ _ _ _).sameBut_run h₃
  have hredeems := redeems_of_redeem (congrArg Prod.fst h₃)
  obtain rfl : c.code = code := Table.key_of_get? (Records.find?_eq_some.mp hredeems.held).1
  have hissues := issuesTokens_of_issueEndUser hissue
  rw [hsame.refreshGrants (by decide)] at hissues
  exact ⟨c, redirectUri, hcode, huri, hredeems,
    hissues.within hsame (.refl _ _) (by decide) (by decide)⟩

/-- Scopes that a grant does not have are the caller's fault. -/
theorem isServerError_of_narrowedScope {g : RefreshGrant} {requested : Option String}
    {e : ProtocolError} (h : narrowedScope g requested = .error e) : e.isServerError = false := by
  rw [narrowedScope] at h
  split at h
  · cases h
  · split at h
    · obtain rfl := Except.error.inj h
      rfl
    · cases h

/-- A refresh token that the client may not redeem is refused and nothing changes; otherwise its
grant is taken and tokens are issued for it. -/
theorem run_grantForRefresh (p : Provider) (tenantId : String) (client : Client)
    (request : TokenRequest) :
    ((∀ g scope, request.refreshToken = some g.refreshToken →
        refreshable? p tenantId client g.refreshToken = some g →
        narrowedScope g request.scope ≠ .ok scope) ∧
      ∃ e, e.isServerError = false ∧
        (grantForRefresh tenantId client request).run p = (.error (.refused e), p)) ∨
    ∃ g scope, request.refreshToken = some g.refreshToken ∧
      refreshable? p tenantId client g.refreshToken = some g ∧
      narrowedScope g request.scope = .ok scope ∧
      (grantForRefresh tenantId client request).run p =
        (tryCatch (issueEndUser tenantId client.clientId g.userId scope (g.refreshCount + 1))
          (restoreGrant g)).run (p.withoutGrant g.refreshToken) := by
  rw [grantForRefresh, run_bind, run_orRefuse]
  cases htoken : request.refreshToken with
  | none =>
    exact .inl ⟨fun _ _ h => absurd h.symm (Option.some_ne_none _),
      .invalidRequest "refresh_token is required", rfl, rfl⟩
  | some token =>
    dsimp only
    rw [run_bind, run_provider]
    dsimp only
    rw [run_bind, run_orRefuse]
    cases hg : refreshable? p tenantId client token with
    | none =>
      refine .inl ⟨fun g scope htoken' hg' => ?_, .invalidGrant "invalid refresh token", rfl, rfl⟩
      obtain rfl := Option.some.inj htoken'
      exact absurd (hg'.symm.trans hg) (Option.some_ne_none g)
    | some g =>
      dsimp only
      rw [run_bind, run_ofExcept]
      obtain rfl : g.refreshToken = token :=
        Table.key_of_get? (Records.find?_eq_some.mp (refreshable?_eq_some.mp hg).1).1
      cases hscope : narrowedScope g request.scope with
      | error e =>
        refine .inl ⟨fun g' scope htoken' hg' hscope' => ?_, e,
          isServerError_of_narrowedScope hscope, rfl⟩
        rw [← Option.some.inj htoken', hg] at hg'
        obtain rfl := Option.some.inj hg'
        cases hscope.symm.trans hscope'
      | ok scope => exact .inr ⟨g, scope, rfl, hg, hscope, rfl⟩

/-- Tokens for a refresh grant are issued for its user, with its scope or less. -/
theorem redeems_of_grantForRefresh
    (h : (grantForRefresh tenantId client request).run p = (.ok response, q)) :
    ∃ g scope, request.refreshToken = some g.refreshToken ∧
      refreshable? p tenantId client g.refreshToken = some g ∧
      narrowedScope g request.scope = .ok scope ∧
      p.IssuesTokens q (p.store.refreshGrants.erase g.refreshToken) tenantId client.clientId
        g.userId scope (g.refreshCount + 1) response := by
  rcases run_grantForRefresh p tenantId client request with
    ⟨-, e, -, hrun⟩ | ⟨g, scope, htoken, hg, hscope, hrun⟩
  · rw [hrun] at h
    cases (Prod.mk.inj h).1
  · rw [hrun] at h
    -- A failure that puts the grant back gives no tokens.
    have hissues := issuesTokens_of_issueEndUser (eq_ok_of_tryCatch (fails_restoreGrant g) h)
    exact ⟨g, scope, htoken, hg, hscope, hissues.within (keptIn_refreshGrants p _) (.refl _ _)
      (by decide) (by decide)⟩

/-- What is put back is what was taken. -/
theorem get?_of_restoreGrant {g x : RefreshGrant} {e : Fault} {key : String}
    (h : ((restoreGrant g e).run p).2.store.refreshGrants.get? key = some x) :
    p.store.refreshGrants.get? key = some x ∨ (key = g.refreshToken ∧ x = g) := by
  cases e with
  | outOfRange => exact .inl h
  | refused e =>
    rw [restoreGrant] at h
    split at h
    · rw [run_bind, run_tryCatch, run_createGrant] at h
      cases hc : p.store.refreshGrants.create p.now g with
      | error e' =>
        rw [hc] at h
        exact .inl h
      | ok t =>
        rw [hc] at h
        change t.get? key = some x at h
        rw [Records.get?_of_create hc] at h
        split at h
        · exact .inr ⟨‹_›, (Option.some.inj h).symm⟩
        · exact .inl h
    · exact .inl h

theorem bringsNone_grantForCode (tenantId : String) (client : Client) (r : TokenRequest) :
    BringsNone (grantForCode tenantId client r) :=
  .bind [] (.orRefuse _ _) (by decide) fun _ =>
    .bind [] (.orRefuse _ _) (by decide) fun _ =>
      .bind _ (touches_redeem _ _ _ _ _) (by decide) fun _ => bringsNone_issueEndUser _ _ _ _ _

theorem bringsNone_grantForRefresh (tenantId : String) (client : Client) (r : TokenRequest) :
    BringsNone (grantForRefresh tenantId client r) := by
  intro p e q key x hrun hget
  rcases run_grantForRefresh p tenantId client r with
    ⟨-, e', -, hrun'⟩ | ⟨g, scope, -, hg, -, hrun'⟩
  · obtain ⟨-, rfl⟩ := Prod.mk.inj (hrun'.symm.trans hrun)
    exact hget
  · rw [hrun', run_tryCatch] at hrun
    rcases hissue : (issueEndUser tenantId client.clientId g.userId scope
      (g.refreshCount + 1)).run (p.withoutGrant g.refreshToken) with ⟨e' | response, r⟩
    · rw [hissue] at hrun
      rw [← show ((restoreGrant g e').run r).2 = q from congrArg Prod.snd hrun] at hget
      rcases get?_of_restoreGrant hget with hkept | ⟨rfl, rfl⟩
      · exact get?_of_withoutGrant (bringsNone_issueEndUser _ _ _ _ _ _ _ _ _ _ hissue hkept)
      · exact (Records.find?_eq_some.mp (refreshable?_eq_some.mp hg).1).1
    · rw [hissue] at hrun
      cases (Prod.mk.inj hrun).1

theorem bringsNone_grant (tenantId : String) (client : Client) (r : TokenRequest) :
    BringsNone (grant tenantId client r) := by
  refine .bind [] (.orRefuse _ _) (by decide) fun g => ?_
  refine .bind_ok (.tryCatch [] ?_ (fun e => ?_) (by decide)) fun _ _ => ⟨_, _, rfl⟩
  · cases g with
    | authorizationCode => exact bringsNone_grantForCode _ _ _
    | refreshToken => exact bringsNone_grantForRefresh _ _ _
    | clientCredentials => exact .of_touches _ (touches_issueService _ _ _) (by decide)
  · cases e with
    | refused e => exact .bind (.emit _) fun _ => .refuse _
    | outOfRange => exact .throw _

/-- The event of a revocation that was granted or refused. -/
def revocationEvent (tenantId : String) (client : Client) (userId : Option String) : AuditEvent :=
  match userId with
  | some userId => { eventType := .revokeGrant, tenantId, clientId := client.clientId, userId }
  | none => { eventType := .revokeGrant, error := some "unauthorized_client", tenantId
              clientId := client.clientId }

/-- A revocation deletes what was granted for the user and the client, if the token is held
for the client, and does nothing if it is not held at all. -/
theorem run_revoke (p : Provider) (tenantId : String) (client : Client) (token : String) :
    (revoke tenantId client token).run p = match p.store.refreshGrants.find? p.now token with
      | none => (.ok (), p)
      | some g =>
        if g.tenantId = tenantId ∧ g.clientId = client.clientId then
          (.ok (), { p with
            store := { p.store with
              refreshGrants :=
                (p.store.refreshGrants.deleteForGrant g.userId tenantId client.clientId).2 }
            log := p.log ++ [revocationEvent tenantId client g.userId] })
        else (.error (.refused (.unauthorizedClient "token was not issued to this client")),
          { p with log := p.log ++ [revocationEvent tenantId client none] }) := by
  rw [revoke, run_bind, run_provider]
  dsimp only
  cases p.store.refreshGrants.find? p.now token with
  | none => rfl
  | some g =>
    dsimp only
    by_cases howner : g.tenantId = tenantId ∧ g.clientId = client.clientId
    · rw [if_pos howner, if_neg (by simp [howner])]
      rfl
    · rw [if_neg howner, if_pos (by simpa [not_and_or, imp_iff_not_or] using howner)]
      rfl

end Op

/-- Every answer to a token request is for a code, for a refresh grant, or for neither, and
then no refresh grants change. -/
theorem redeems_of_answer {response : TokenResponse} (h : a.answer? p = some response) :
    (∃ c, RedeemsCode p a c response) ∨ (∃ g, RedeemsGrant p a g response) ∨
      (a.presentedCode? = none ∧ a.presentedGrant? = none ∧
        (p.step a).store.refreshGrants = p.store.refreshGrants) := by
  cases a with
  | grant tenantId client request =>
    obtain ⟨g, r, hg, hrun, hafter⟩ : ∃ g r, GrantType.ofName? request.grantType = some g ∧
        (grantFor g tenantId client request).run p = (.ok response, r) ∧
          SameBut [] r (p.step (.grant tenantId client request)) :=
      grant_eq_ok (Prod.ext (answer?_grant.mp h) rfl)
    cases g with
    | authorizationCode =>
      obtain ⟨c, redirectUri, hcode, huri, hredeems, hissues⟩ := redeems_of_grantForCode hrun
      obtain rfl := hredeems.tenant
      refine .inl ⟨c, h, ⟨client, request, redirectUri, rfl, hredeems⟩, ⟨?_, ?_⟩, ?_⟩
      · rw [Action.presentedCode?, presentedCode?_of_authorizationCode hg, huri, hcode]
        rfl
      · rw [Action.presentedGrant?, presentedGrant?_of_ne_refreshToken (by rw [hg]; nofun)]
      · rw [hredeems.client]
        exact hissues.within (.refl [] p) hafter (by decide) (by decide)
    | refreshToken =>
      obtain ⟨g, scope, htoken, hg', hscope, hissues⟩ := redeems_of_grantForRefresh hrun
      obtain ⟨hheld, rfl, hclient, -⟩ := refreshable?_eq_some.mp hg'
      refine .inr (.inl ⟨g, h, hheld, ⟨?_, ?_⟩, client, request, scope, rfl, hg', hscope, ?_⟩)
      · rw [Action.presentedGrant?, presentedGrant?_of_refreshToken hg, htoken]
      · rw [Action.presentedCode?, presentedCode?_of_ne_authorizationCode (by rw [hg]; nofun)]
      · rw [hclient]
        exact hissues.within (.refl [] p) hafter (by decide) (by decide)
    | clientCredentials =>
      refine .inr (.inr ⟨?_, ?_, ?_⟩)
      · rw [Action.presentedCode?, presentedCode?_of_ne_authorizationCode (by rw [hg]; nofun)]
      · rw [Action.presentedGrant?, presentedGrant?_of_ne_refreshToken (by rw [hg]; nofun)]
      · have hservice := (touches_issueService _ _ _).sameBut_run hrun
        rw [hafter.refreshGrants List.not_mem_nil, hservice.refreshGrants (by decide)]
  | _ => cases h

/-! ## Where refresh grants come from -/

/-- An action stores a refresh grant: tokens are issued, at someone's request for them or in
answer to a token request. -/
structure Stores (p : Provider) (a : Action) (g : RefreshGrant) : Prop where
  drew : p.Drew (p.step a) g.refreshToken
  limit : ∃ client, p.store.client? g.clientId = some client ∧
    g.refreshCount < client.maxRefreshTokenCount
  source : a = .issueEndUser g.tenantId g.clientId g.userId g.scope g.refreshCount ∨
    a.handedOut? p = some g

namespace Provider

/-- A refresh grant was held before, or the action stored it. -/
theorem refreshGrants_step {token : String} {g : RefreshGrant}
    (h : (p.step a).store.refreshGrants.get? token = some g) :
    p.store.refreshGrants.get? token = some g ∨ Stores p a g := by
  have hsame := (sameBut_step p a).refreshGrants
  cases a with
  | issueEndUser tenantId clientId userId scope n =>
    rcases hrun : (issueEndUser tenantId clientId userId scope n).run p with ⟨e | response, q⟩
    · rw [step, hrun] at h
      exact .inl (bringsNone_issueEndUser _ _ _ _ _ _ _ _ _ _ hrun h)
    · have hissues := issuesTokens_of_issueEndUser hrun
      rw [show q = p.step (.issueEndUser tenantId clientId userId scope n) by rw [step, hrun]]
        at hissues
      rcases hissues.get? h with hkept | ⟨-, hbrings, rfl, rfl, rfl, rfl, rfl⟩
      · exact .inl hkept
      · exact .inr ⟨hbrings.drew, hbrings.limit, .inl rfl⟩
  | grant tenantId client request =>
    rcases hrun : (grant tenantId client request).run p with ⟨e | response, q⟩
    · rw [step, hrun] at h
      exact .inl (bringsNone_grant _ _ _ _ _ _ _ _ hrun h)
    · have hanswer : (Action.grant tenantId client request).answer? p = some response :=
        answer?_grant.mpr (by rw [hrun])
      have hstores : ∀ kept, p.Brings (p.step (.grant tenantId client request)) kept g →
          response.refreshToken = some token → Stores p (.grant tenantId client request) g := by
        intro kept hbrings hgiven
        refine ⟨hbrings.drew, hbrings.limit, .inr ?_⟩
        rw [Action.handedOut?, hanswer, Option.bind_some, hgiven]
        exact h
      rcases redeems_of_answer hanswer with ⟨c, hc⟩ | ⟨g', hg'⟩ | ⟨-, -, hkept⟩
      · rcases hc.issues.get? h with hkept | ⟨hgiven, hbrings, -⟩
        · exact .inl hkept
        · exact .inr (hstores _ hbrings hgiven)
      · obtain ⟨_, _, _, _, _, _, hissues⟩ := hg'.redeems
        rcases hissues.get? h with hkept | ⟨hgiven, hbrings, -⟩
        · exact .inl (get?_of_withoutGrant hkept)
        · exact .inr (hstores _ hbrings hgiven)
      · exact .inl (hkept ▸ h)
  | revoke tenantId client token' =>
    rw [step, run_revoke] at h
    split at h
    · exact .inl h
    · split at h
      · exact .inl (Records.get?_deleteForGrant.mp h).1
      · exact .inl h
  | purge => exact .inl (Records.get?_purge_eq_some.mp h).1
  | _ => exact .inl (hsame (by simp [Action.parts]) ▸ h)

/-- A refresh grant that is held in a run was stored in it. -/
theorem stores_of_refreshGrants (hgrants : p.store.refreshGrants = .empty) {token : String}
    {g : RefreshGrant} (h : (p.exec as).store.refreshGrants.get? token = some g) :
    ∃ as₁ a as₂, as = as₁ ++ a :: as₂ ∧ Stores (p.exec as₁) a g :=
  exists_origin (fun p g => p.store.refreshGrants.get? token = some g)
    (fun _ _ _ => refreshGrants_step) (fun _ h => by rw [hgrants] at h; cases h) h

/-- A handle that was drawn in an action of a run was drawn in the run. -/
theorem Drew.of_step {as₁ as₂ : List Action} {handle : String}
    (h : (p.exec as₁).Drew ((p.exec as₁).step a) handle) :
    p.Drew (p.exec (as₁ ++ a :: as₂)) handle := by
  rw [exec_append, exec_cons]
  exact h.mono (random_exec p as₁) (drawn_le_exec p as₁) (drawn_le_exec _ as₂)

/-- A code that is held in a run was drawn in it. -/
theorem drew_of_codes (hcodes : p.store.codes = .empty) {code : String} {c : AuthorizationCode}
    (h : (p.exec as).store.codes.get? code = some c) : p.Drew (p.exec as) code := by
  obtain ⟨as₁, a, as₂, rfl, hissues⟩ := issues_of_codes hcodes h
  obtain rfl : c.code = code := Table.key_of_get? h
  exact Drew.of_step
    ⟨_, Nat.le_refl _, hissues.drawn ▸ Nat.lt_succ_self _, hissues.code_eq⟩

/-- The handle of a refresh grant that is held in a run was drawn in it. -/
theorem drew_of_refreshGrants (hgrants : p.store.refreshGrants = .empty) {token : String}
    {g : RefreshGrant} (h : (p.exec as).store.refreshGrants.get? token = some g) :
    p.Drew (p.exec as) token := by
  obtain ⟨as₁, a, as₂, rfl, hstores⟩ := stores_of_refreshGrants hgrants h
  obtain rfl : g.refreshToken = token := Table.key_of_get? h
  exact hstores.drew.of_step

/-- The refresh grant that comes with an answer is stored with it. -/
theorem handedOut?_of_issues {kept : Records RefreshGrant}
    {tenantId clientId userId scope : String} {refreshCount : Nat} {response : TokenResponse}
    (hanswer : a.answer? p = some response)
    (h : p.IssuesTokens (p.step a) kept tenantId clientId userId scope refreshCount response)
    {g : RefreshGrant} (hg : a.handedOut? p = some g) :
    p.Brings (p.step a) kept g ∧ g.tenantId = tenantId ∧ g.clientId = clientId ∧
      g.userId = userId ∧ g.scope = scope ∧ g.refreshCount = refreshCount := by
  rw [Action.handedOut?, hanswer, Option.bind_some] at hg
  rcases h.refresh with ⟨hnone, -⟩ | ⟨g', hg', hbrings, hfields⟩
  · rw [hnone] at hg
    cases hg
  · rw [hg', Option.bind_some, hbrings.get?_eq] at hg
    obtain rfl := Option.some.inj hg
    exact ⟨hbrings, hfields⟩

/-- A refresh token that is redeemed is not held any more. -/
theorem get?_of_redeemsGrant {p₀ : Provider} {g : RefreshGrant} {response : TokenResponse}
    (h : RedeemsGrant p a g response) (hdrew : p₀.Drew p g.refreshToken)
    (hrandom : p.random = p₀.random) (hdistinct : p₀.DrawsDistinct (p.step a).drawn) :
    (p.step a).store.refreshGrants.get? g.refreshToken = none := by
  obtain ⟨_, _, _, -, -, -, hissues⟩ := h.redeems
  refine Option.eq_none_iff_forall_ne_some.mpr fun x hx => ?_
  rcases hissues.get? hx with hkept | ⟨-, hbrings, -⟩
  · rw [Table.get?_erase, if_pos rfl] at hkept
    cases hkept
  · have htoken : x.refreshToken = g.refreshToken := Table.key_of_get? hx
    exact hdrew.not_drew hrandom hdistinct (htoken ▸ hbrings.drew)

/-- What a refresh token stands for never changes: the grant that it has after a run is the
one that it had when its handle had been drawn. -/
theorem grant_of_exec {token : String} {g : RefreshGrant} (hdrew : p.Drew q token)
    (hrandom : q.random = p.random) (hdistinct : p.DrawsDistinct (q.exec as).drawn)
    (h : (q.exec as).store.refreshGrants.get? token = some g) :
    q.store.refreshGrants.get? token = some g := by
  refine holds_of_exec (fun q token => q.store.refreshGrants.get? token = some g)
    (fun q a handle hheld => ?_) hdrew hrandom hdistinct h
  refine (refreshGrants_step hheld).imp_right fun hstores => ?_
  obtain rfl : g.refreshToken = handle := Table.key_of_get? hheld
  exact hstores.drew

end Provider

/-! ## A grant to run -/

namespace RefreshSample

open LoginSample (now redirectUri)

/-- A client that may refresh twice. -/
def client : Client :=
  { Client.create "C1" "secret-C1" "T1" .standard now with
    redirectUris := .ofList [redirectUri], maxRefreshTokenCount := 2 }

/-- A provider with one tenant, one client and one user, which has read its key. -/
def provider : Provider where
  config := { Config.standard with loginUrl := "com.example.login:/start" }
  grace := ⟨0⟩
  now
  store := { Store.empty with
    tenants := Table.empty.put (Tenant.create "T1" now)
    clients := Table.empty.put client
    users := Table.empty.put (User.create "T1" "U1") }
  keys := some ⟨now, [⟨"K1", .last, TokenSample.privateKey⟩], ⟨[]⟩⟩
  random i := Vector.replicate 32 (UInt8.ofNat i)
  drawn := 0
  log := []

/-- The client's request. -/
def request : AuthorizationRequest :=
  AuthorizationRequest.code "C1" redirectUri " openid  profile"

/-- The code that the user's login brings. -/
def code : String := handleText (provider.random 1)

/-- The refresh token that comes with the tokens for the code. -/
def token : String := handleText (provider.random 4)

/-- A token request of a kind, without parameters. -/
def tokenRequest (g : GrantType) : TokenRequest :=
  ⟨g.name, none, none, none, none, none, none, none, none, none⟩

/-- The request of tokens for the code. -/
def redemption : TokenRequest :=
  { tokenRequest .authorizationCode with
    code := some code, redirectUri := some redirectUri }

/-- The user logs in, and the client gets tokens for the code. -/
def opening : List Action :=
  [.authorize "T1" request, .completeLogin (handleText (provider.random 0)) "U1",
    .grant "T1" client redemption]

/-- The client asks for fewer scopes when it refreshes. -/
def refresh : Action :=
  .grant "T1" client { tokenRequest .refreshToken with
    refreshToken := some token, scope := some "profile" }

theorem drawsDistinct {n : Nat} (h : n ≤ 8) : provider.DrawsDistinct n := by
  have hfirst : ∀ i j : Fin 8, i < j →
      handleText (provider.random i) ≠ handleText (provider.random j) := by decide +kernel
  exact fun i j _ hij hj => hfirst ⟨i, by omega⟩ ⟨j, by omega⟩ hij

/-- The code is answered with tokens, among them a refresh token. -/
theorem holds_token : ∃ g,
    (provider.exec opening).store.refreshGrants.find? (provider.exec opening).now token
      = some g ∧ g.tenantId = "T1" ∧ g.clientId = client.clientId := by
  have hheld : ((provider.exec opening).store.refreshGrants.find? (provider.exec opening).now
      token).any (fun g => g.tenantId = "T1" ∧ g.clientId = client.clientId) = true := by
    decide +kernel
  cases hg : (provider.exec opening).store.refreshGrants.find? (provider.exec opening).now
      token with
  | none =>
    rw [hg] at hheld
    cases hheld
  | some g =>
    rw [hg, Option.any_some] at hheld
    exact ⟨g, rfl, of_decide_eq_true hheld⟩

end RefreshSample

end OpenIdProvider
